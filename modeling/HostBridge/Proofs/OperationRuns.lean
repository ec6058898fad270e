import HostBridge.Proofs.FieldWrites
import HostBridge.Proofs.LossyTexts
import HostBridge.Proofs.Stages

/-!
Runs of operations from end to end. Where the look-ups of an operation succeed, it goes on with the
member, and what it does in the end is to drop the references that it took. So what holds once the
member was used, and does not depend on how references are counted, holds after the operation.
-/
namespace HostBridge

open Exec

variable {P : Platform} {α β : Type}

/-! ### Counts of references -/

namespace Host

universe u

/-- The changes by which a host counts the references to an object or a class. -/
inductive Counts {m : Type → Type u} (H : Host P m) :
    (P.Ledger → P.World → P.Ledger × P.World) → Prop
  | shareObject (o : P.Object) : H.Counts (H.shareObject o)
  | dropObject (o : P.Object) : H.Counts (H.dropObject o)
  | shareClass (c : P.Class) : H.Counts (H.shareClass c)
  | dropClass (c : P.Class) : H.Counts (H.dropClass c)

/-- It stays as it is when references are shared or dropped. -/
def Spares {m : Type → Type u} (H : Host P m) (p : State P → Prop) : Prop :=
  ∀ f, H.Counts f → ∀ s, p s →
    p { s with ledger := (f s.ledger s.world).1, world := (f s.ledger s.world).2 }

variable {H : Host P (Exec P)} {p : State P → Prop} {deep : Prop}

namespace Spares

theorem upkeep (spares : H.Spares p) {f : P.Ledger → P.World → P.Ledger × P.World}
    (counts : H.Counts f) : Returns p (Exec.upkeep f) (fun _ => p) deep :=
  Returns.modify fun s hs => spares f counts s hs

theorem drop (spares : H.Spares p) (o : P.Object) : Returns p (H.drop o) (fun _ => p) deep :=
  spares.upkeep (.dropObject o)

theorem dropType (spares : H.Spares p) (c : P.Class) :
    Returns p (H.dropType c) (fun _ => p) deep :=
  spares.upkeep (.dropClass c)

theorem dropValue (spares : H.Spares p) (v : HostValue P.Object) :
    Returns p (H.dropValue v) (fun _ => p) deep := by
  unfold Host.dropValue
  split
  · exact spares.drop _
  · exact Returns.pure fun _ hs => hs

theorem dropValues (spares : H.Spares p) (vs : List (HostValue P.Object)) :
    Returns p (H.dropValues vs) (fun _ => p) deep :=
  Returns.forM spares.dropValue vs

end Spares
end Host

/-! ### Calls that return -/

/-- What a known state says is known. -/
theorem Exec.Returns.known {s : State P} {f : State P → α} {deep : Prop} :
    Returns (· = s) (Exec.gets f) (fun a t => a = f s ∧ t = s) deep := by
  rintro _ rfl
  exact .inr ⟨_, _, rfl, rfl, rfl⟩

namespace Call

variable {F : Foreign P (Exec P)} {s t : State P} {pre : State P → Prop} {deep : Prop}
  {post : Except CallError β → State P → Prop}

/-- A call that came to a result has gone on from the answer of the host. -/
theorem of_ofHost_bind {x : Exec P (Except HostError α)} {k : α → Call P β} {b : β}
    (ran : (ofHost x >>= k).run s = (.value (.ok b), t)) :
    ∃ a u, x s = (.value (.ok a), u) ∧ (k a).run u = (.value (.ok b), t) := by
  rw [run_ofHost_bind, run_bind] at ran
  rcases hx : x s with ⟨(e | a) | m | w, u⟩ <;> rw [hx] at ran
  · cases ran
  · exact ⟨a, u, rfl, ran⟩
  · cases ran
  · cases ran

theorem returns_ofHost_bind {x : Exec P (Except HostError α)} {k : α → Call P β} {a : α}
    (ran : x s = (.value (.ok a), t)) (next : Returns (· = t) (k a).run post deep) :
    Returns (· = s) (ofHost x >>= k).run post deep := by
  rw [run_ofHost_bind]
  have first : Returns (· = s) x (fun r u => r = .ok a ∧ u = t) deep := by
    rintro u rfl
    exact .inr ⟨_, t, ran, rfl, rfl⟩
  refine first.bind fun r => Returns.of_and fun given => ?_
  subst given
  exact next

theorem returns_lift_bind {x : Exec P α} {k : α → Call P β} {mid : α → State P → Prop}
    (hx : Returns pre x mid deep) (hk : ∀ a, Returns (mid a) (k a).run post deep) :
    Returns pre ((liftM x : Call P α) >>= k).run post deep := by
  rw [run_lift_bind]
  exact hx.bind hk

theorem returns_ensure {x : Call P β} {after : Exec P Unit} (hx : Returns pre x.run post deep)
    (ha : ∀ r, Returns (post r) after (fun _ => post r) deep) :
    Returns pre (ensure x after).run post deep :=
  Returns.ensure hx ha

/-- An operation goes on where its look-ups have come to, and drops what it took. -/
theorem returns_reached {target : Target} {key : MemberKey}
    {rest : Receiver P.Object P.Class → P.Member → Call P β}
    {found : Receiver P.Object P.Class} {member : P.Member}
    (reached : (reachField F target key).run s = (.value (.ok (found, member)), t))
    (spares : ∀ r, F.host.Spares (post r))
    (next : Returns (· = t) (rest found member).run post deep) :
    Returns (· = s) (withType F key.className fun type =>
      withReceiver F target type fun receiver => do
        let member ← ofHost (Members.member F type key)
        rest receiver member).run post deep := by
  obtain ⟨type, t₁, typed, reached⟩ := of_ofHost_bind reached
  refine returns_ofHost_bind typed (returns_ensure ?_ fun r => (spares r).dropType type)
  cases target with
  | static =>
    obtain ⟨member', t₂, resolved, reached⟩ := of_ofHost_bind reached
    cases reached
    exact returns_ofHost_bind resolved next
  | «instance» h =>
    obtain ⟨t₂, looked⟩ := lookup_gives (F := F) (s := t₁) h
    dsimp only [receiver, withReceiver] at reached ⊢
    rw [bind_assoc, run_lift_bind, run_bind, looked] at reached
    have seen : Returns (· = t₁) (Objects.lookup F h)
        (fun found u => found = (t₁.bridge.handles.get h).1 ∧ u = t₂) deep := by
      rintro u rfl
      exact .inr ⟨_, t₂, looked, rfl, rfl⟩
    refine returns_lift_bind seen fun object => Returns.of_and fun same => ?_
    subst same
    cases behind : (t₁.bridge.handles.get h).1 with
    | none =>
      rw [behind] at reached
      cases reached
    | some o =>
      rw [behind] at reached
      obtain ⟨member', t₃, resolved, reached⟩ := of_ofHost_bind reached
      cases reached
      exact returns_ensure (returns_ofHost_bind resolved next) fun r => (spares r).drop o

end Call

/-! ### New handles and new buffers -/

/-- In `u`, after `x`, the word is a handle of `o` that had not been given out by `x`, unless the
numbers of the handles have come round. -/
def NewHandle (o : P.Object) (x u : State P) (r : Word) : Prop :=
  x.bridge.handles.issued + 1 < 2 ^ 63 →
    (u.bridge.handles.get r.toHandle).1 = some o ∧ ¬ x.bridge.handles.WasIssued r.toHandle

/-- Buffers lie below the next address, which is one. -/
structure Memory.Roomy (m : Memory) : Prop where
  below : ∀ e ∈ m.buffers, e.1.toNat < m.next
  positive : 0 < m.next
  room : m.next < 2 ^ 64

/-- In `u`, after `x`, the word is the address of a buffer with a copy of the text, which is read as
that text; it was no address of a buffer in `x` as long as there was room for it. -/
def NewText (text : String) (x u : State P) (r : Word) : Prop :=
  (∃ copy, u.memory.buffer? r.toPointer = some copy ∧ copy = cBuffer (Utf8.encode text) ∧
    cText copy = text) ∧
    (x.memory.Roomy → r.toPointer ≠ 0 ∧ x.memory.buffer? r.toPointer = none)

namespace HandleTable

variable {O : Type} (table : HandleTable O)

theorem not_wasIssued_next (room : table.issued + 1 < 2 ^ 63) :
    ¬ table.WasIssued ⟨table.next⟩ := by
  rintro ⟨k, before, same⟩
  have := nth_inj room (by omega) same
  omega

/-- The numbers do not come round with the next handle. -/
theorem next_store_ne (a : O) (room : table.issued + 1 < 2 ^ 63) :
    (table.store (some a)).2.next ≠ 1 := by
  intro last
  have number : table.next.toInt = table.issued + 1 := toInt_nth room
  have zero : table.next = 0 := by
    have sum : table.next + 1 = 1 := (table.next_insert a).symm.trans last
    simpa using sum
  rw [zero] at number
  have none : (0 : Int64).toInt = 0 := rfl
  omega

end HandleTable

/-- The next address names no buffer. -/
theorem Memory.Roomy.front_fresh {m : Memory} (roomy : m.Roomy) :
    m.buffer? (UInt64.ofNat m.front) = none := by
  have value : (UInt64.ofNat m.next).toNat = m.next := UInt64.toNat_ofNat_of_lt' roomy.room
  have front : m.front = m.next := by
    refine if_neg fun zero => ?_
    rw [zero] at value
    exact absurd value roomy.positive.ne
  rw [front, Memory.buffer?, List.lookup_eq_none_iff]
  intro e mem
  have below := roomy.below e mem
  have other : UInt64.ofNat m.next ≠ e.1 := by
    intro same
    rw [same] at value
    omega
  simpa using other

namespace Call

variable {F : Foreign P (Exec P)} {x : State P} {deep : Prop}

theorem newHandle_spared (o : P.Object) (r : Word) : F.host.Spares (NewHandle o x · r) :=
  fun _ _ _ new => new

/-- An object is stored under a new handle. -/
theorem store_returns (o : P.Object) :
    Returns (· = x) (Objects.store F (some o)) (fun h u => NewHandle o x u (.ofHandle h)) deep := by
  unfold Objects.store
  refine Returns.known.bind fun table => Returns.of_and fun same => ?_
  subst same
  have entered : Returns (· = x)
      (Exec.update fun b => { b with handles := (x.bridge.handles.store (some o)).2 })
      (fun _ u => NewHandle o x u (.ofHandle (x.bridge.handles.store (some o)).1)) deep := by
    refine Returns.modify ?_
    rintro u rfl room
    rw [Word.toHandle_ofHandle]
    exact ⟨HandleTable.get_store _ _ (HandleTable.next_store_ne _ o room),
      HandleTable.not_wasIssued_next _ room⟩
  refine entered.bind fun _ => ?_
  cases x.bridge.handles.replaced (some o) with
  | none => exact Returns.pure fun _ new => new
  | some old =>
    exact ((newHandle_spared o _).drop old).bind fun _ => Returns.pure fun _ new => new

/-- A text is placed in a new buffer. -/
theorem placeText_returns {text : String} (nulFree : '\x00' ∉ text.toList) :
    Returns (· = x) (placeText text) (fun address u => NewText text x u (.ofPointer address))
      deep := by
  rintro u rfl
  have placed := Memory.buffer?_placeText u.memory text
  have fresh (roomy : u.memory.Roomy) : (u.memory.placeText text).1 ≠ 0 ∧
      u.memory.buffer? (u.memory.placeText text).1 = none :=
    ⟨u.memory.place_ne_zero _, roomy.front_fresh⟩
  exact .inr ⟨_, _, rfl, ⟨_, placed, rfl, cText_cBuffer nulFree⟩, fresh⟩

end Call
end HostBridge
