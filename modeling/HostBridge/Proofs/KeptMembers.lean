import HostBridge.Proofs.HostCalls
import HostBridge.Proofs.SessionBlind

/-!
What is in the cache stays there. A look-up that succeeds enters what it found, and nothing takes
the place of an entry; so, until the cache is cleared or a session is ended, every entry is there
with the token that it was entered with.
-/
namespace HostBridge

open Exec

variable {P : Platform} {α : Type}

/-! ### Caches -/

namespace MemberCache

variable {γ μ : Type}

/-- The type and the member of a key are in the cache with these tokens. -/
def Holds (c : MemberCache γ μ) (key : MemberKey) (type : γ) (member : μ) : Prop :=
  c.type? key.className = some type ∧ c.member? key = some member

/-- The second cache has every entry of the first one. -/
structure Extends (c c' : MemberCache γ μ) : Prop where
  type : ∀ {name type}, c.type? name = some type → c'.type? name = some type
  member : ∀ {key member}, c.member? key = some member → c'.member? key = some member

variable {c c' c'' : MemberCache γ μ}

theorem Extends.refl : c.Extends c := ⟨id, id⟩

theorem Extends.trans (h : c.Extends c') (h' : c'.Extends c'') : c.Extends c'' :=
  ⟨fun found => h'.type (h.type found), fun found => h'.member (h.member found)⟩

theorem Holds.extends {key : MemberKey} {type : γ} {member : μ} (held : c.Holds key type member)
    (h : c.Extends c') : c'.Holds key type member :=
  ⟨h.type held.1, h.member held.2⟩

/-- What was there stays when a type is found. -/
theorem addType_extends (c : MemberCache γ μ) (name : String) (token : γ) :
    c.Extends (c.addType name token).2.2 where
  type {n type} found := by
    by_cases same : n = name
    · subst same
      rw [addType_of_some found]
      exact found
    · simpa [same] using found
  member found := by simpa using found

theorem addMember_extends (c : MemberCache γ μ) (key : MemberKey) (token : μ) :
    c.Extends (c.addMember key token).2 where
  type found := by simpa using found
  member {k member} found := by
    by_cases same : k = key
    · subst same
      rw [addMember_of_some found]
      exact found
    · simpa [same] using found

end MemberCache

/-- States whose cache has every entry of `c`. -/
def KeptSince (c : MemberCache P.Class P.Member) (s : State P) : Prop :=
  c.Extends s.bridge.members

namespace KeptSince

variable {c : MemberCache P.Class P.Member}

theorem inert : Inert (KeptSince c) (KeptSince c) where
  handles _ h := h
  memory _ h := h
  sides _ _ h := h
  report _ h := h
  halts _ h := h

/-! ### Look-ups -/

variable {F : Foreign P (Exec P)}

theorem resolving {β : Type} {call : HostCall P} {found : β → HostCall P}
    {x : Exec P (Except HostError β)} (hx : Keeps (KeptSince c) (KeptSince c) x) :
    Keeps (KeptSince c) (KeptSince c) (Host.resolving call found x) := by
  apply Keeps.bind (Keeps.record fun _ h => h)
  intro _
  apply hx.bind
  intro r
  cases r with
  | error e => exact Keeps.pure
  | ok token => exact Keeps.bind (Keeps.record fun _ h => h) fun _ => Keeps.pure

/-- A type that was asked for is in the cache, with the token that was given. -/
theorem type {name : String} (hx : Keeps (KeptSince c) (KeptSince c) (F.host.resolveType name)) :
    Triple (KeptSince c) (Members.type F name)
      (fun r s => KeptSince c s ∧ ∀ type, r = .ok type → s.bridge.members.type? name = some type)
      (KeptSince c) (KeptSince c) := by
  have resolved : Keeps (KeptSince c) (KeptSince c) (F.host.callResolveType name) := by
    rw [Host.callResolveType_eq]
    exact resolving hx
  apply Members.type_triple fun _ => KeptSince c
  · exact fun _ _ _ _ h => h
  · intro s type h there
    refine ⟨h, fun type' same => ?_⟩
    cases same
    exact there
  · refine resolved.weaken fun r s h => ?_
    cases r with
    | ok token => exact h
    | error e => exact ⟨h, nofun⟩
  · intro token s h
    refine ⟨h.trans (s.bridge.members.addType_extends name token), fun type same => ?_⟩
    cases same
    exact s.bridge.members.type?_addType_self name token

theorem member {type : P.Class} {key : MemberKey}
    (hx : Keeps (KeptSince c) (KeptSince c) (F.host.resolveMember type key)) :
    Triple (KeptSince c) (Members.member F type key)
      (fun r s => KeptSince c s ∧ ∀ member, r = .ok member →
        s.bridge.members.member? key = some member) (KeptSince c) (KeptSince c) := by
  have resolved : Keeps (KeptSince c) (KeptSince c) (F.host.callResolveMember type key) := by
    rw [Host.callResolveMember_eq]
    exact resolving hx
  apply Members.member_triple fun _ => KeptSince c
  · intro s member h there
    refine ⟨h, fun member' same => ?_⟩
    cases same
    exact there
  · refine resolved.weaken fun r s h => ?_
    cases r with
    | ok token => exact h
    | error e => exact ⟨h, nofun⟩
  · intro token s h
    refine ⟨h.trans (s.bridge.members.addMember_extends key token), fun member same => ?_⟩
    cases same
    exact s.bridge.members.member?_addMember_self key token

/-- A preload that succeeds leaves its type and its member in the cache. -/
theorem preload (key : MemberKey)
    (htype : ∀ c, Keeps (KeptSince c) (KeptSince c) (F.host.resolveType key.className))
    (hmember : ∀ c type, Keeps (KeptSince c) (KeptSince c) (F.host.resolveMember type key)) :
    Gives (fun _ => True) (Call.preload F key).run (fun r s => r = .ok () →
      ∃ type member, s.bridge.members.Holds key type member) := by
  have typed : Gives (fun _ => True) (Members.type F key.className)
      (fun r s => ∀ type, r = .ok type → s.bridge.members.type? key.className = some type) := by
    apply Triple.of_pre
    rintro s -
    have asked := (type (htype s.bridge.members)).gives.weaken fun _ _ h => h.2
    refine asked.of_imp ?_
    rintro t rfl
    exact .refl
  have found (type : P.Class) :
      Gives (fun s => s.bridge.members.type? key.className = some type) (Members.member F type key)
        (fun r s => ∀ member, r = .ok member →
          ∃ type member, s.bridge.members.Holds key type member) := by
    apply Triple.of_pre
    intro s cached
    refine ((member (hmember s.bridge.members type)).gives.of_imp ?_).weaken ?_
    · rintro t rfl
      exact .refl
    · rintro r t ⟨kept, found⟩ member same
      exact ⟨type, member, MemberCache.Extends.type kept cached, found member same⟩
  exact Call.preload_gives (fun _ _ held => held) typed found

end KeptSince

/-! ### Programs that clear nothing -/

/-- A program that neither ends a session nor clears the cache. -/
def Act.NeverClears {α : Type} : Act P α → Prop
  | .bind x f => x.NeverClears ∧ ∀ b, (f b).NeverClears
  | .attempt x => x.NeverClears
  | .op o => o.isClearing = false
  | .pure _ | .panic _ | .note _ | .world _ | .extra _ => True

/-- Foreign code that neither ends a session nor clears the cache. -/
structure Foreign.NeverClears (F : Foreign P (Act P)) : Prop where
  resolveType : ∀ name, (F.host.resolveType name).NeverClears
  resolveMember : ∀ type key, (F.host.resolveMember type key).NeverClears
  construct : ∀ type member args, (F.host.construct type member args).NeverClears
  invoke : ∀ receiver member result args, (F.host.invoke receiver member result args).NeverClears
  readField : ∀ receiver member kind, (F.host.readField receiver member kind).NeverClears
  writeField : ∀ receiver member value, (F.host.writeField receiver member value).NeverClears
  start : ∀ config, (F.vm.start config).NeverClears
  loadImage : ∀ image, (F.vm.loadImage image).NeverClears
  enterIsolate : ∀ i, (F.vm.enterIsolate i).NeverClears
  exitIsolate : F.vm.exitIsolate.NeverClears
  enterScope : F.vm.enterScope.NeverClears
  exitScope : F.vm.exitScope.NeverClears
  entryPoint : ∀ name, (F.vm.entryPoint name).NeverClears
  drain : F.vm.drain.NeverClears
  shutdownIsolate : ∀ i, (F.vm.shutdownIsolate i).NeverClears
  stop : F.vm.stop.NeverClears
  handler : ∀ h k args, (F.handler h k args).NeverClears
  sink : ∀ s player text, (F.sink s player text).NeverClears
  extra : ∀ {β : Type} (o : P.Extra β), (F.extra o).NeverClears

namespace System

variable {F : Foreign P (Act P)} {c : MemberCache P.Class P.Member} {limit : Nat}
  (never : F.NeverClears)
include never

section
variable (run : ∀ {β : Type} {b : Act P β}, b.NeverClears →
  Keeps (KeptSince c) (KeptSince c) ((ofPrograms F).exec limit b))
include run

theorem kept_blind : UseBlind ((ofPrograms F).foreign limit) (KeptSince c) (KeptSince c) where
  toDetached := KeptSince.inert.toDetached
  session _ _ _ _ h := h
  vmCall _ _ h := h
  callStart _ h := h
  vmReturn _ h := h
  start config := run (never.start config)
  loadImage image := run (never.loadImage image)
  enterIsolate i := run (never.enterIsolate i)
  exitIsolate := run never.exitIsolate
  enterScope := run never.enterScope
  exitScope := run never.exitScope
  entryPoint name := run (never.entryPoint name)
  drain := run never.drain
  shutdownIsolate i := run (never.shutdownIsolate i)
  stop := run never.stop
  handler h k args := Keeps.bind (Keeps.record fun _ h => h) fun _ => run (never.handler h k args)

def keptContract :
    UseContract ((ofPrograms F).foreign limit) (fun _ : Unit => KeptSince c) (KeptSince c) where
  Le _ _ := True
  typeKnown _ _ _ := True
  memberKnown _ _ _ := True
  weaken _ h := h
  typeKnown_mono _ h := h
  withstands _ := KeptSince.inert.withstands _
  type _ name := (KeptSince.type (run (never.resolveType name))).weaken fun r s h => by
    cases r with
    | ok type => exact ⟨(), ⟨trivial, trivial⟩, h.1⟩
    | error e => exact h.1
  member _ type key :=
    (KeptSince.member (run (never.resolveMember type key))).weaken fun r s h => by
      cases r with
      | ok member => exact ⟨(), ⟨trivial, trivial⟩, h.1⟩
      | error e => exact h.1
  construct _ _ type member args _ :=
    Keeps.bind (Keeps.record fun _ h => h) fun _ => run (never.construct type member args)
  invoke _ _ receiver member result args _ :=
    Keeps.bind (Keeps.record fun _ h => h) fun _ => run (never.invoke receiver member result args)
  readField _ _ receiver member kind _ :=
    Keeps.bind (Keeps.record fun _ h => h) fun _ => run (never.readField receiver member kind)
  writeField _ _ receiver member value _ :=
    Keeps.bind (Keeps.record fun _ h => h) fun _ => run (never.writeField receiver member value)
  toUseKept := (SessionUse.ofBlind fun _ => kept_blind never run).kept
  blind _ := ⟨fun _ _ _ _ h => h, fun _ _ h => h⟩
  handler _ h k args := run (never.handler h k args)
  sink _ s player text := run (never.sink s player text)
  extra _ _ o := run (never.extra o)

end

/-- However such a program ends, every entry is there with its token. -/
theorem exec_kept (limit : Nat) {a : Act P α} (ha : a.NeverClears) :
    Keeps (KeptSince c) (KeptSince c) ((ofPrograms F).exec limit a) := by
  induction limit generalizing α with
  | zero => exact Keeps.halt fun _ h => h
  | succ limit ih =>
    have contract := keptContract never (c := c) ih
    change Keeps _ _ (a.run ((ofPrograms F).foreign limit))
    induction a with
    | pure a => exact Keeps.pure
    | bind x f ihx ihf => exact (ihx ha.1).bind fun b => ihf b (ha.2 b)
    | panic message => exact Keeps.panic
    | attempt x ihx => exact (ihx ha).attempt
    | note n => exact contract.note_keeps () n
    | world f => exact contract.world_keeps () f
    | op o => exact contract.op_keeps () o ha
    | extra o => exact contract.extra () o

theorem runTurns_kept (limit : Nat) {turns : List (ThreadId × Act P Unit)}
    (each : ∀ turn ∈ turns, turn.2.NeverClears) (s : State P) :
    s.bridge.members.Extends ((ofPrograms F).runTurns limit turns s).bridge.members :=
  runTurns_keeps_each (I := KeptSince s.bridge.members) (fun _ h => h) (fun _ _ h => h) turns
    (fun turn mem => exec_kept never limit (each turn mem)) .refl

end System
end HostBridge
