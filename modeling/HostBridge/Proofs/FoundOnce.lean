import HostBridge.Proofs.HostCalls
import HostBridge.Proofs.Permits

/-!
No look-up succeeds twice. As long as the cache is not cleared, what the host has found is in it,
and what is in it is not looked up; a look-up that fails leaves no entry, so that it is made again.
-/
namespace HostBridge

open Exec

variable {P : Platform} {α : Type}

/-! ### What was found -/

/-- The names of types that were found, the newest first. -/
def typesFound (happenings : List (Happening P)) : List String := happenings.filterMap fun
  | .host (.typeFound name _) => some name
  | _ => none

/-- The keys of members that were found, the newest first. -/
def membersFound (happenings : List (Happening P)) : List MemberKey := happenings.filterMap fun
  | .host (.memberFound key _) => some key
  | _ => none

namespace MemberCache

variable {γ μ : Type}

def hasType (c : MemberCache γ μ) (name : String) : Bool := (c.type? name).isSome

def hasMember (c : MemberCache γ μ) (key : MemberKey) : Bool := (c.member? key).isSome

/-- What an operation on a member looks up is there. -/
def Knows (c : MemberCache γ μ) (key : MemberKey) : Prop :=
  c.hasType key.className = true ∧ c.hasMember key = true

/-- A type that is new is entered, and nothing else is. -/
theorem addType_new {c : MemberCache γ μ} {name : String} (token : γ)
    (new : c.hasType name = false) :
    ∃ c', c.addType name token = (token, true, c') ∧ c'.member? = c.member? ∧
      ∀ n, c'.hasType n = true ↔ n = name ∨ c.hasType n = true := by
  have missing : c.type? name = none := by simpa [hasType] using new
  refine ⟨(c.addType name token).2.2, ?_, c.member?_addType name token, fun n => ?_⟩
  · rw [addType_of_none missing]
  · by_cases same : n = name
    · subst same
      simp [hasType]
    · simp [hasType, same]

theorem addMember_new {c : MemberCache γ μ} {key : MemberKey} (token : μ)
    (new : c.hasMember key = false) :
    ∃ c', c.addMember key token = (token, c') ∧ c'.type? = c.type? ∧
      ∀ k, c'.hasMember k = true ↔ k = key ∨ c.hasMember k = true := by
  have missing : c.member? key = none := by simpa [hasMember] using new
  refine ⟨(c.addMember key token).2, ?_, c.type?_addMember key token, fun k => ?_⟩
  · rw [addMember_of_none missing]
  · by_cases same : k = key
    · subst same
      simp [hasMember]
    · simp [hasMember, same]

end MemberCache

/-- What was found came in addition to what was there before, each key once, and is there after. -/
structure Filled {κ : Type} (before : κ → Bool) (found : List κ) (after : κ → Bool) : Prop where
  once : found.Nodup
  missing : ∀ k ∈ found, before k = false
  kept : ∀ k, after k = true ↔ before k = true ∨ k ∈ found

namespace Filled

variable {κ : Type} {before after after' : κ → Bool} {found : List κ} {key : κ}

theorem nil : Filled before [] before := ⟨List.nodup_nil, nofun, fun _ => by simp⟩

/-- A key that is not there is found. -/
theorem cons (h : Filled before found after) (new : after key = false)
    (entered : ∀ k, after' k = true ↔ k = key ∨ after k = true) :
    Filled before (key :: found) after' := by
  have fresh : ¬(before key = true ∨ key ∈ found) := fun there => by
    simp [(h.kept key).mpr there] at new
  rw [not_or, Bool.not_eq_true] at fresh
  refine ⟨List.nodup_cons.mpr ⟨fresh.2, h.once⟩, fun k hk => ?_, fun k => ?_⟩
  · rcases List.mem_cons.mp hk with rfl | hk
    · exact fresh.1
    · exact h.missing k hk
  · rw [entered, h.kept, List.mem_cons]
    exact or_left_comm

end Filled

/-- From `s`, the happenings `new` led to `t`, and no type or member was found twice or although it
was in the cache. -/
structure FoundOnce (s : State P) (new : List (Happening P)) (t : State P) : Prop where
  record : t.record = new ++ s.record
  types : Filled s.bridge.members.hasType (typesFound new) t.bridge.members.hasType
  members : Filled s.bridge.members.hasMember (membersFound new) t.bridge.members.hasMember

/-- States to which a run from `s` without a clear of the cache may lead. -/
def FilledFrom (s t : State P) : Prop := ∃ new, FoundOnce s new t

/-- A happening other than that the host found something. -/
def Happening.IsUnfound (h : Happening P) : Prop := typesFound [h] = [] ∧ membersFound [h] = []

namespace FilledFrom

variable {s t : State P}

theorem refl : FilledFrom s s := ⟨[], rfl, .nil, .nil⟩

theorem record {e : Happening P} (h : FilledFrom s t) (other : e.IsUnfound) :
    FilledFrom s { t with record := e :: t.record } := by
  obtain ⟨new, h⟩ := h
  have types : typesFound (e :: new) = typesFound new := by
    rw [← List.singleton_append, typesFound, List.filterMap_append]
    exact congrArg (· ++ typesFound new) other.1
  have members : membersFound (e :: new) = membersFound new := by
    rw [← List.singleton_append, membersFound, List.filterMap_append]
    exact congrArg (· ++ membersFound new) other.2
  exact ⟨e :: new, congrArg (e :: ·) h.record, types ▸ h.types, members ▸ h.members⟩

theorem inert : Inert (FilledFrom s) (FilledFrom s) where
  handles _ h := h.imp fun _ h => ⟨h.record, h.types, h.members⟩
  memory _ h := h.imp fun _ h => ⟨h.record, h.types, h.members⟩
  sides _ _ h := h.imp fun _ h => ⟨h.record, h.types, h.members⟩
  report _ h := h.record ⟨rfl, rfl⟩
  halts _ h := h

/-- The host found a type that was not in the cache, and it is entered. -/
theorem enterType {name : String} {token : P.Class} {c : MemberCache P.Class P.Member}
    (h : FilledFrom s t) (new : t.bridge.members.hasType name = false)
    (same : c.member? = t.bridge.members.member?)
    (entered : ∀ n, c.hasType n = true ↔ n = name ∨ t.bridge.members.hasType n = true) :
    FilledFrom s { t with
      record := .host (.typeFound name token) :: t.record
      bridge := { t.bridge with members := c } } := by
  obtain ⟨before, h⟩ := h
  have members : c.hasMember = t.bridge.members.hasMember := by
    funext key
    exact congrArg Option.isSome (congrFun same key)
  refine ⟨.host (.typeFound name token) :: before, congrArg (_ :: ·) h.record,
    h.types.cons new entered, ?_⟩
  change Filled _ (membersFound before) c.hasMember
  rw [members]
  exact h.members

theorem enterMember {key : MemberKey} {token : P.Member} {c : MemberCache P.Class P.Member}
    (h : FilledFrom s t) (new : t.bridge.members.hasMember key = false)
    (same : c.type? = t.bridge.members.type?)
    (entered : ∀ k, c.hasMember k = true ↔ k = key ∨ t.bridge.members.hasMember k = true) :
    FilledFrom s { t with
      record := .host (.memberFound key token) :: t.record
      bridge := { t.bridge with members := c } } := by
  obtain ⟨before, h⟩ := h
  have types : c.hasType = t.bridge.members.hasType := by
    funext name
    exact congrArg Option.isSome (congrFun same name)
  refine ⟨.host (.memberFound key token) :: before, congrArg (_ :: ·) h.record, ?_,
    h.members.cons new entered⟩
  change Filled _ (typesFound before) c.hasType
  rw [types]
  exact h.types

/-! ### Look-ups -/

/-- The cache is `c`, besides. -/
def At (s : State P) (c : MemberCache P.Class P.Member) (t : State P) : Prop :=
  c = t.bridge.members ∧ FilledFrom s t

theorem At.inert {c : MemberCache P.Class P.Member} : Inert (At s c) (FilledFrom s) where
  handles step h := ⟨h.1, FilledFrom.inert.handles step h.2⟩
  memory m h := ⟨h.1, FilledFrom.inert.memory m h.2⟩
  sides l w h := ⟨h.1, FilledFrom.inert.sides l w h.2⟩
  report d h := ⟨h.1, FilledFrom.inert.report d h.2⟩
  halts _ h := h.2

/-- What a look-up by the host leaves that does not touch the cache. -/
def Found {β : Type} (s : State P) (c : MemberCache P.Class P.Member) (found : β → HostCall P) :
    Except HostError β → State P → Prop
  | .ok token, t =>
    ∃ u, At s c u ∧ t = { u with record := .host (found token) :: u.record }
  | .error _, t => At s c t

variable {F : Foreign P (Exec P)} {c : MemberCache P.Class P.Member}

theorem resolve_found {β : Type} {x : Exec P (Except HostError β)} {call : HostCall P}
    {found : β → HostCall P} (asked : (Happening.host call).IsUnfound)
    (hx : Keeps (At s c) (FilledFrom s) x) :
    Triple (At s c) (Host.resolving call found x) (Found s c found) (FilledFrom s)
      (FilledFrom s) := by
  have put : Triple (At s c) (Exec.record (.host call)) (fun _ => At s c) (FilledFrom s)
      (FilledFrom s) := Triple.record fun _ h => ⟨h.1, h.2.record asked⟩
  refine put.bind fun _ => (hx.conseq (fun _ h => h) (fun _ _ h => h) (fun _ h => h.2)
    fun _ h => h).bind fun r => ?_
  cases r with
  | error e => exact Triple.pure fun _ h => h
  | ok token =>
    have noted : Triple (At s c) (Exec.record (.host (found token)))
        (fun _ => Found s c found (.ok token)) (FilledFrom s) (FilledFrom s) :=
      Triple.record fun u h => ⟨u, h, rfl⟩
    exact noted.bind fun _ => Triple.pure fun _ h => h

/-- The cache is read as it is. -/
theorem At.members {E H : State P → Prop} :
    Triple (At s c) (Exec.bridge (·.members)) (fun c' t => c = c' ∧ At s c t) E H :=
  Triple.bridge fun _ h => ⟨h.1, h⟩

theorem Found.members {β : Type} {found : β → HostCall P} {token : β} {E H : State P → Prop} :
    Triple (Found s c found (.ok token)) (Exec.bridge (·.members))
      (fun c' t => c = c' ∧ Found s c found (.ok token) t) E H := by
  refine Triple.bridge fun t h => ⟨?_, h⟩
  obtain ⟨u, h, rfl⟩ := h
  exact h.1

/-- What comes of asking for a type: it is in the cache then, unless the host has none, in which
case the cache stays as it is. -/
def TypeAsked (s : State P) (c : MemberCache P.Class P.Member) (name : String) :
    Except HostError P.Class → State P → Prop
  | .ok _, t => t.bridge.members.hasType name = true ∧ FilledFrom s t
  | .error _, t => c.hasType name = false ∧ At s c t

def MemberAsked (s : State P) (c : MemberCache P.Class P.Member) (key : MemberKey) :
    Except HostError P.Member → State P → Prop
  | .ok _, t => (t.bridge.members.hasMember key = true ∧ t.bridge.members.type? = c.type?) ∧
      FilledFrom s t
  | .error _, t => c.hasMember key = false ∧ At s c t

theorem type_asked {name : String}
    (aside : Keeps (At s c) (FilledFrom s) (F.host.resolveType name)) :
    Triple (At s c) (Members.type F name) (TypeAsked s c name) (FilledFrom s) (FilledFrom s) := by
  have resolved : Triple (At s c) (F.host.callResolveType name) (Found s c (.typeFound name))
      (FilledFrom s) (FilledFrom s) := by
    rw [Host.callResolveType_eq]
    exact resolve_found ⟨rfl, rfl⟩ aside
  unfold Members.type
  refine At.members.bind fun _ => Triple.of_and ?_
  rintro rfl
  cases cached : c.type? name with
  | some type =>
    refine Triple.bind (At.inert.upkeep _) fun _ => Triple.pure fun t h => ⟨?_, h.2⟩
    rw [← h.1, MemberCache.hasType, cached]
    rfl
  | none =>
    have new : c.hasType name = false := by
      rw [MemberCache.hasType, cached]
      rfl
    refine resolved.bind fun r => ?_
    cases r with
    | error e => exact Triple.pure fun _ h => ⟨new, h⟩
    | ok token =>
      refine Found.members.bind fun _ => Triple.of_and ?_
      rintro rfl
      obtain ⟨c', added, same, entered⟩ := MemberCache.addType_new token new
      rw [added]
      have filled : Triple (Found s c (.typeFound name) (.ok token))
          (Exec.update fun b => { b with members := c' })
          (fun _ => TypeAsked s c name (.ok token)) (FilledFrom s) (FilledFrom s) := by
        refine Triple.update fun t h => ?_
        obtain ⟨u, ⟨rfl, h⟩, rfl⟩ := h
        exact ⟨(entered name).mpr (.inl rfl), h.enterType new same entered⟩
      refine filled.bind fun _ => ?_
      have shared : Triple (TypeAsked s c name (.ok token)) (F.host.shareType token)
          (fun _ => TypeAsked s c name (.ok token)) (FilledFrom s) (FilledFrom s) :=
        Triple.modify fun t h => ⟨h.1, FilledFrom.inert.sides _ _ h.2⟩
      exact shared.bind fun _ => Triple.pure fun _ h => h

theorem member_asked {type : P.Class} {key : MemberKey}
    (aside : Keeps (At s c) (FilledFrom s) (F.host.resolveMember type key)) :
    Triple (At s c) (Members.member F type key) (MemberAsked s c key) (FilledFrom s)
      (FilledFrom s) := by
  have resolved : Triple (At s c) (F.host.callResolveMember type key)
      (Found s c (.memberFound key)) (FilledFrom s) (FilledFrom s) := by
    rw [Host.callResolveMember_eq]
    exact resolve_found ⟨rfl, rfl⟩ aside
  unfold Members.member
  refine At.members.bind fun _ => Triple.of_and ?_
  rintro rfl
  cases cached : c.member? key with
  | some member =>
    refine Triple.pure fun t h => ⟨?_, h.2⟩
    rw [← h.1, MemberCache.hasMember, cached]
    exact ⟨rfl, rfl⟩
  | none =>
    have new : c.hasMember key = false := by
      rw [MemberCache.hasMember, cached]
      rfl
    refine resolved.bind fun r => ?_
    cases r with
    | error e => exact Triple.pure fun _ h => ⟨new, h⟩
    | ok token =>
      refine Found.members.bind fun _ => Triple.of_and ?_
      rintro rfl
      obtain ⟨c', added, same, entered⟩ := MemberCache.addMember_new token new
      rw [added]
      have filled : Triple (Found s c (.memberFound key) (.ok token))
          (Exec.update fun b => { b with members := c' })
          (fun _ => MemberAsked s c key (.ok token)) (FilledFrom s) (FilledFrom s) := by
        refine Triple.update fun t h => ?_
        obtain ⟨u, ⟨rfl, h⟩, rfl⟩ := h
        exact ⟨⟨(entered key).mpr (.inl rfl), same⟩, h.enterMember new same entered⟩
      exact filled.bind fun _ => Triple.pure fun _ h => h

end FilledFrom

/-! ### Programs that do not clear the cache -/

namespace Permit

/-- Objects, memory and reports: a look-up that keeps to them does not come back to the cache. -/
def aside : Permit P where
  op o := o.isPlain = true
  world _ := True
  loud := True
  clears := False

/-- Dynamic operations and preloads without clears. -/
def clearFree : Permit P where
  op o := o.isDynamic = true
  world _ := True
  loud := True
  clears := False

end Permit

namespace Inert

variable {I H : State P → Prop} (inert : Inert I H) {F : Foreign P (Exec P)}
include inert

/-- A program keeps what its operations and its notes keep, if it does not clear the cache. -/
theorem within_keeps (note : ∀ n s, I s → I { s with record := .note n :: s.record })
    {p : Permit P} (clearFree : ¬p.clears)
    (ops : ∀ {β : Type} (o : Op P β), p.op o → Keeps I H (o.run F)) {a : Act P α}
    (ha : a.Within p) : Keeps I H (a.run F) := by
  induction ha with
  | pure a => exact Keeps.pure
  | bind hx hf ihx ihf => exact ihx.bind ihf
  | attempt hx ih => exact ih.attempt
  | panic loud m => exact Keeps.panic
  | note loud n => exact Keeps.modify (note n)
  | world h => exact fun s hs => inert.sides s.ledger _ hs
  | op h => exact ops _ h
  | clear clears ha ih => exact (clearFree clears).elim

end Inert

namespace System

variable {F : Foreign P (Act P)}

/-- A look-up that does not come back to the cache keeps what plain operations keep. -/
theorem aside_keeps {I H : State P → Prop} (inert : Inert I H)
    (note : ∀ n s, I s → I { s with record := .note n :: s.record }) (limit : Nat) {a : Act P α}
    (ha : a.Within .aside) : Keeps I H ((ofPrograms F).exec limit a) := by
  cases limit with
  | zero => exact Keeps.halt inert.halts
  | succ limit => exact inert.within_keeps note id (inert.withstands _).plain_keeps ha

variable (lookups : F.LookupsWithin .aside)
include lookups

theorem type_asked (limit : Nat) (name : String) (s : State P)
    (c : MemberCache P.Class P.Member) :
    Triple (FilledFrom.At s c) (Members.type ((ofPrograms F).foreign limit) name)
      (FilledFrom.TypeAsked s c name) (FilledFrom s) (FilledFrom s) :=
  FilledFrom.type_asked (aside_keeps FilledFrom.At.inert
    (fun _ _ h => ⟨h.1, h.2.record ⟨rfl, rfl⟩⟩) limit (lookups.type name))

theorem member_asked (limit : Nat) (type : P.Class) (key : MemberKey) (s : State P)
    (c : MemberCache P.Class P.Member) :
    Triple (FilledFrom.At s c) (Members.member ((ofPrograms F).foreign limit) type key)
      (FilledFrom.MemberAsked s c key) (FilledFrom s) (FilledFrom s) :=
  FilledFrom.member_asked (aside_keeps FilledFrom.At.inert
    (fun _ _ h => ⟨h.1, h.2.record ⟨rfl, rfl⟩⟩) limit (lookups.member type key))

/-- States filled from `s` withstand what clear-free programs ask of the host. -/
def filledContract (bodies : F.BodiesWithin .clearFree) {limit : Nat} {s : State P}
    (run : ∀ {β : Type} {b : Act P β}, b.Within .clearFree →
      Keeps (FilledFrom s) (FilledFrom s) ((ofPrograms F).exec limit b)) :
    HostContract ((ofPrograms F).foreign limit) (fun _ : Unit => FilledFrom s) (FilledFrom s) where
  Le _ _ := True
  typeKnown _ _ _ := True
  memberKnown _ _ _ := True
  weaken _ h := h
  typeKnown_mono _ h := h
  withstands _ := FilledFrom.inert.withstands _
  type _ name := by
    refine Triple.of_imp (Triple.of_exists fun c => (type_asked lookups limit name s c).weaken ?_)
      fun t h => ⟨t.bridge.members, rfl, h⟩
    intro r t h
    cases r with
    | ok type => exact ⟨(), ⟨trivial, trivial⟩, h.2⟩
    | error e => exact h.2.2
  member _ type key := by
    refine Triple.of_imp
      (Triple.of_exists fun c => (member_asked lookups limit type key s c).weaken ?_)
      fun t h => ⟨t.bridge.members, rfl, h⟩
    intro r t h
    cases r with
    | ok member => exact ⟨(), ⟨trivial, trivial⟩, h.2⟩
    | error e => exact h.2.2
  construct _ _ type member args _ :=
    Keeps.bind (Keeps.record fun _ h => h.record ⟨rfl, rfl⟩)
      fun _ => run (bodies.construct type member args)
  invoke _ _ receiver member result args _ :=
    Keeps.bind (Keeps.record fun _ h => h.record ⟨rfl, rfl⟩)
      fun _ => run (bodies.invoke receiver member result args)
  readField _ _ receiver member kind _ :=
    Keeps.bind (Keeps.record fun _ h => h.record ⟨rfl, rfl⟩)
      fun _ => run (bodies.readField receiver member kind)
  writeField _ _ receiver member value _ :=
    Keeps.bind (Keeps.record fun _ h => h.record ⟨rfl, rfl⟩)
      fun _ => run (bodies.writeField receiver member value)

/-- However a clear-free program ends, no look-up succeeded twice. -/
theorem exec_filled (bodies : F.BodiesWithin .clearFree) (limit : Nat) {a : Act P α}
    (ha : a.Within .clearFree) (s : State P) :
    Keeps (FilledFrom s) (FilledFrom s) ((ofPrograms F).exec limit a) := by
  induction limit generalizing α with
  | zero => exact Keeps.halt fun _ h => h
  | succ limit ih =>
    refine FilledFrom.inert.within_keeps (fun _ _ h => h.record ⟨rfl, rfl⟩) id
      (fun o dynamic => ?_) ha
    exact (filledContract lookups bodies ih).dynamic_keeps () o dynamic

end System
end HostBridge
