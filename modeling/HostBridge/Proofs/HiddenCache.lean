import HostBridge.Proofs.Alike
import HostBridge.Proofs.HostCalls
import HostBridge.Proofs.Resolution

/-!
Where a cache cannot be told from none. Look-ups whose outcomes are fixed and that foreign code does
not see may be left out or made again: what a dynamic operation does besides, and what comes of it,
is the same.
-/
namespace HostBridge

open Exec

variable {P : Platform} {α : Type}

/-- What foreign code can tell: which contents of the ledger and of its memory are the same to it.
Those that are not the same as themselves do not come up. -/
structure Sight (P : Platform) where
  Same : P.Ledger × P.World → P.Ledger × P.World → Prop
  symm : ∀ {a b}, Same a b → Same b a
  trans : ∀ {a b c}, Same a b → Same b c → Same a c

namespace Sight

variable (σ : Sight P)

/-- A change that is the same wherever the same is seen. -/
def Respects (f : P.Ledger × P.World → P.Ledger × P.World) : Prop :=
  ∀ a b, σ.Same a b → σ.Same (f a) (f b)

/-- A change that is not seen. -/
def Hides (f : P.Ledger × P.World → P.Ledger × P.World) : Prop := ∀ a, σ.Same a a → σ.Same a (f a)

/-- What a use of the memory of foreign code does to it. -/
def onWorld {β : Type} (f : P.World → β × P.World) (a : P.Ledger × P.World) : P.Ledger × P.World :=
  (a.1, (f a.2).2)

/-- A use of the memory of foreign code that comes to the same wherever the same is seen. -/
def Tells {β : Type} (f : P.World → β × P.World) : Prop :=
  (∀ a b, σ.Same a b → (f a.2).1 = (f b.2).1) ∧ σ.Respects (onWorld f)

end Sight

/-- The fixed outcomes of look-ups. -/
structure Lookups (P : Platform) where
  type : String → Except HostError P.Class
  member : MemberKey → Except HostError P.Member

/-- Every entry is the outcome of its look-up. -/
def MemberCache.Agrees (c : MemberCache P.Class P.Member) (L : Lookups P) : Prop :=
  (∀ e ∈ c.types, L.type e.1 = .ok e.2) ∧ ∀ e ∈ c.members, L.member e.1 = .ok e.2

namespace MemberCache.Agrees

variable {c : MemberCache P.Class P.Member} {L : Lookups P}

theorem addType (h : c.Agrees L) {name : String} {token : P.Class}
    (found : L.type name = .ok token) :
    L.type name = .ok (c.addType name token).1 ∧ (c.addType name token).2.2.Agrees L := by
  obtain ⟨kept, only, rest⟩ := c.addType_spec name token
  have types : ∀ e ∈ (c.addType name token).2.2.types, L.type e.1 = .ok e.2 := by
    intro e he
    rcases only e he with he | rfl
    · exact h.1 e he
    · exact found
  exact ⟨types _ kept, types, fun e he => h.2 e (rest ▸ he)⟩

theorem addMember (h : c.Agrees L) {key : MemberKey} {token : P.Member}
    (found : L.member key = .ok token) :
    L.member key = .ok (c.addMember key token).1 ∧ (c.addMember key token).2.Agrees L := by
  obtain ⟨kept, only, rest⟩ := c.addMember_spec key token
  have members : ∀ e ∈ (c.addMember key token).2.members, L.member e.1 = .ok e.2 := by
    intro e he
    rcases only e he with he | rfl
    · exact h.2 e he
    · exact found
  exact ⟨members _ kept, fun e he => h.1 e (rest ▸ he), members⟩

end MemberCache.Agrees

/-! ### Records without look-ups -/

def Happening.isLookup : Happening P → Bool
  | .host (.resolveType _) | .host (.typeFound _ _) => true
  | .host (.resolveMember _ _) | .host (.memberFound _ _) => true
  | _ => false

/-- Everything that happened besides look-ups, the newest first. -/
def State.deeds (s : State P) : List (Happening P) := s.record.filter (!·.isLookup)

/-- States that differ in their caches, in look-ups that were made and in what is not seen. -/
structure Like (σ : Sight P) (L : Lookups P) (s t : State P) : Prop where
  handles : s.bridge.handles = t.bridge.handles
  memory : s.memory = t.memory
  deeds : s.deeds = t.deeds
  sides : σ.Same (s.ledger, s.world) (t.ledger, t.world)
  left : s.bridge.members.Agrees L
  right : t.bridge.members.Agrees L

namespace Like

variable {σ : Sight P} {L : Lookups P} {s t u : State P}

theorem symm (h : Like σ L s t) : Like σ L t s :=
  ⟨h.handles.symm, h.memory.symm, h.deeds.symm, σ.symm h.sides, h.right, h.left⟩

theorem trans (h : Like σ L s t) (h' : Like σ L t u) : Like σ L s u where
  handles := h.handles.trans h'.handles
  memory := h.memory.trans h'.memory
  deeds := h.deeds.trans h'.deeds
  sides := σ.trans h.sides h'.sides
  left := h.left
  right := h'.right

theorem refl_right (h : Like σ L s t) : Like σ L t t := h.symm.trans h

/-! ### Changes of one of the two states -/

/-- A look-up is put on record. -/
theorem lookup_returns {e : Happening P} (isLookup : e.isLookup = true) :
    Returns (Like σ L s) (Exec.record e) (fun _ => Like σ L s) := by
  refine Returns.modify fun t h => { h with deeds := h.deeds.trans ?_ }
  simp [State.deeds, isLookup]

theorem resolving_returns {β : Type} {call : HostCall P} {found : β → HostCall P}
    {x : Exec P (Except HostError β)} {outcome : Except HostError β}
    (asked : (Happening.host call).isLookup = true)
    (given : ∀ token, (Happening.host (found token)).isLookup = true)
    (hx : Returns (Like σ L s) x fun r t => r = outcome ∧ Like σ L s t) :
    Returns (Like σ L s) (Host.resolving call found x)
      (fun r t => r = outcome ∧ Like σ L s t) := by
  refine (lookup_returns asked).bind fun _ => hx.bind fun r => ?_
  cases r with
  | error e => exact Returns.pure fun _ h => h
  | ok token =>
    refine Returns.of_and fun same => (lookup_returns (given token)).bind fun _ => ?_
    exact Returns.pure fun _ h => ⟨same, h⟩

theorem upkeep_returns {f : P.Ledger → P.World → P.Ledger × P.World}
    (hidden : σ.Hides (Function.uncurry f)) :
    Returns (Like σ L s) (Exec.upkeep f) (fun _ => Like σ L s) := by
  refine Returns.modify fun t h => { h with sides := σ.trans h.sides ?_ }
  exact hidden (t.ledger, t.world) (σ.trans (σ.symm h.sides) h.sides)

theorem members_returns :
    Returns (Like σ L s) (Exec.bridge (·.members)) (fun c t => c.Agrees L ∧ Like σ L s t) :=
  fun t h => .inr ⟨t.bridge.members, t, rfl, h.right, h⟩

theorem setMembers_returns {c : MemberCache P.Class P.Member} (agrees : c.Agrees L) :
    Returns (Like σ L s) (Exec.update fun b => { b with members := c }) (fun _ => Like σ L s) :=
  Returns.modify fun _ h => { h with right := agrees }

/-! ### Changes of both states -/

theorem record_alike (e : Happening P) :
    Alike (Like σ L) (Exec.record e) (Exec.record e) := by
  refine Alike.modify fun s t h => { h with deeds := ?_ }
  have same := h.deeds
  unfold State.deeds at same ⊢
  rw [List.filter_cons, List.filter_cons, same]

theorem setHandles_alike (table : HandleTable P.Object) :
    Alike (Like σ L) (Exec.update fun b : Bridge P => { b with handles := table })
      (Exec.update fun b => { b with handles := table }) :=
  Alike.modify fun _ _ h => { h with handles := rfl }

theorem handles_alike {f : HandleTable P.Object → α} :
    Alike (Like σ L) (Exec.bridge fun b => f b.handles) (Exec.bridge fun b => f b.handles) :=
  Alike.gets fun _ _ h => congrArg f h.handles

theorem memory_alike {f : Memory → α} :
    Alike (Like σ L) (Exec.gets fun s => f s.memory) (Exec.gets fun s => f s.memory) :=
  Alike.gets fun _ _ h => congrArg f h.memory

theorem setMemory_alike (f : Memory → Memory) :
    Alike (Like σ L) (Exec.modify fun s => { s with memory := f s.memory })
      (Exec.modify fun s => { s with memory := f s.memory }) :=
  Alike.modify fun _ _ h => { h with memory := congrArg f h.memory }

theorem upkeep_alike {f : P.Ledger → P.World → P.Ledger × P.World}
    (same : σ.Respects (Function.uncurry f)) :
    Alike (Like σ L) (Exec.upkeep f) (Exec.upkeep f) :=
  Alike.modify fun _ _ h => { h with sides := same _ _ h.sides }

theorem placeText_alike (text : String) :
    Alike (Like σ L) (Call.placeText (P := P) text) (Call.placeText text) :=
  (memory_alike (f := id)).bind fun _ => (setMemory_alike fun _ => _).bind fun _ => Alike.pure

theorem readText_alike (address : UInt64) :
    Alike (Like σ L) (Call.readText (P := P) address) (Call.readText address) := by
  unfold Call.readText
  split
  · exact Alike.pure
  · refine (memory_alike (f := (·.buffer? address))).bind fun buffer => ?_
    cases buffer with
    | none => exact Alike.halt
    | some bytes => exact Alike.pure

end Like

/-! ### Look-ups -/

/-- Look-ups have fixed outcomes and are not seen, and neither is the keeping of types. -/
structure Foreign.HidesLookups (F : Foreign P (Exec P)) (σ : Sight P) (L : Lookups P) : Prop where
  type : ∀ name s, Returns (Like σ L s) (F.host.resolveType name)
    (fun r t => r = L.type name ∧ Like σ L s t)
  member : ∀ type key s, Returns (Like σ L s) (F.host.resolveMember type key)
    (fun r t => r = L.member key ∧ Like σ L s t)
  shareClass : ∀ c, σ.Hides (Function.uncurry (F.host.shareClass c))
  dropClass : ∀ c, σ.Hides (Function.uncurry (F.host.dropClass c))

namespace Foreign.HidesLookups

variable {F : Foreign P (Exec P)} {σ : Sight P} {L : Lookups P} (hides : F.HidesLookups σ L)
  {s : State P}
include hides

theorem dropType_returns (c : P.Class) :
    Returns (Like σ L s) (F.host.dropType c) (fun _ => Like σ L s) :=
  Like.upkeep_returns (hides.dropClass c)

theorem callResolveType_returns (name : String) :
    Returns (Like σ L s) (F.host.callResolveType name)
      (fun r t => r = L.type name ∧ Like σ L s t) := by
  rw [Host.callResolveType_eq]
  exact Like.resolving_returns rfl (fun _ => rfl) (hides.type name s)

theorem callResolveMember_returns (type : P.Class) (key : MemberKey) :
    Returns (Like σ L s) (F.host.callResolveMember type key)
      (fun r t => r = L.member key ∧ Like σ L s t) := by
  rw [Host.callResolveMember_eq]
  exact Like.resolving_returns rfl (fun _ => rfl) (hides.member type key s)

/-- A type from wherever is the one that the host has for the name. -/
theorem type_returns (R : Resolution) (name : String) :
    Returns (Like σ L s) (R.type F name) (fun r t => r = L.type name ∧ Like σ L s t) := by
  cases R with
  | anew => exact hides.callResolveType_returns name
  | cached =>
    change Returns (Like σ L s) (Members.type F name) _
    unfold Members.type
    refine Like.members_returns.bind fun cache => Returns.of_and fun agrees => ?_
    cases found : cache.type? name with
    | some c =>
      have outcome : L.type name = .ok c := agrees.1 _ (MemberCache.mem_of_lookup found)
      refine (Like.upkeep_returns (hides.shareClass c)).bind fun _ => ?_
      exact Returns.pure fun _ h => ⟨outcome.symm, h⟩
    | none =>
      refine (hides.callResolveType_returns name).bind fun r => Returns.of_and fun outcome => ?_
      cases r with
      | error e => exact Returns.pure fun _ h => ⟨outcome, h⟩
      | ok c =>
        refine Like.members_returns.bind fun cache => Returns.of_and fun agrees => ?_
        have entered := agrees.addType outcome.symm
        rcases added : cache.addType name c with ⟨kept, fresh, cache'⟩
        rw [added] at entered
        refine (Like.setMembers_returns entered.2).bind fun _ => ?_
        have shared : Returns (Like σ L s) (do
            F.host.shareType kept
            return .ok kept : Exec P (Except HostError P.Class))
            (fun r t => r = L.type name ∧ Like σ L s t) :=
          (Like.upkeep_returns (hides.shareClass kept)).bind fun _ =>
            Returns.pure fun _ h => ⟨entered.1.symm, h⟩
        cases fresh with
        | false => exact (hides.dropType_returns c).bind fun _ => shared
        | true => exact shared

theorem member_returns (R : Resolution) (type : P.Class) (key : MemberKey) :
    Returns (Like σ L s) (R.member F type key) (fun r t => r = L.member key ∧ Like σ L s t) := by
  cases R with
  | anew => exact hides.callResolveMember_returns type key
  | cached =>
    change Returns (Like σ L s) (Members.member F type key) _
    unfold Members.member
    refine Like.members_returns.bind fun cache => Returns.of_and fun agrees => ?_
    cases found : cache.member? key with
    | some m =>
      have outcome : L.member key = .ok m := agrees.2 _ (MemberCache.mem_of_lookup found)
      exact Returns.pure fun _ h => ⟨outcome.symm, h⟩
    | none =>
      refine (hides.callResolveMember_returns type key).bind fun r =>
        Returns.of_and fun outcome => ?_
      cases r with
      | error e => exact Returns.pure fun _ h => ⟨outcome, h⟩
      | ok m =>
        refine Like.members_returns.bind fun cache => Returns.of_and fun agrees => ?_
        have entered := agrees.addMember outcome.symm
        rcases added : cache.addMember key m with ⟨kept, cache'⟩
        rw [added] at entered
        refine (Like.setMembers_returns entered.2).bind fun _ => ?_
        exact Returns.pure fun _ h => ⟨entered.1.symm, h⟩

/-- Emptying the cache is not seen. -/
theorem clear_returns (R : Resolution) :
    Returns (Like σ L s) (R.clear F) (fun _ => Like σ L s) := by
  cases R with
  | anew => exact Returns.pure fun _ h => h
  | cached =>
    refine Like.members_returns.bind fun cache => Returns.of_and fun _ => ?_
    have emptied : Returns (Like σ L s)
        (Exec.update fun b : Bridge P => { b with members := b.members.clear })
        (fun _ => Like σ L s) := Returns.modify fun _ h => { h with right := ⟨nofun, nofun⟩ }
    refine emptied.bind fun _ => (Returns.forM hides.dropType_returns _).bind fun _ => ?_
    exact Returns.pure fun _ h => h

/-- A preload is not seen. -/
theorem preload_returns (R : Resolution) (key : MemberKey) :
    Returns (Like σ L s) (Call.preload F key R).run (fun _ => Like σ L s) := by
  have resolved : Returns (Like σ L s) (Call.withType F key.className (R := R) fun type => do
      discard <| Call.ofHost (R.member F type key)).run (fun _ => Like σ L s) := by
    unfold Call.withType
    rw [ExceptT.run_bind]
    have typed : Returns (Like σ L s) (Call.ofHost (R.type F key.className)).run
        (fun _ => Like σ L s) :=
      (hides.type_returns R _).bind fun _ => Returns.pure fun _ h => h.2
    refine typed.bind fun r => ?_
    cases r with
    | error e => exact Returns.pure fun _ h => h
    | ok type =>
      have found : Returns (Like σ L s) (Call.ofHost (R.member F type key)).run
          (fun _ => Like σ L s) :=
        (hides.member_returns R type key).bind fun _ => Returns.pure fun _ h => h.2
      refine Returns.ensure ?_ fun _ => hides.dropType_returns type
      change Returns _ (Call.ofHost (R.member F type key) >>= fun _ => pure () : Call P Unit).run _
      rw [ExceptT.run_bind]
      refine found.bind fun r => ?_
      cases r with
      | error e => exact Returns.pure fun _ h => h
      | ok m => exact Returns.pure fun _ h => h
  unfold Call.preload
  split
  · rw [ExceptT.run_bind]
    cases Descriptor.parseField key.signature with
    | error e => exact Returns.pure fun _ h => h
    | ok _ => exact resolved
  · rw [ExceptT.run_bind]
    cases Descriptor.parseMethod key.signature with
    | error e => exact Returns.pure fun _ h => h
    | ok _ => exact resolved

end Foreign.HidesLookups
end HostBridge
