import HostBridge.Proofs.HostAsked
import HostBridge.Proofs.Plain
import HostBridge.Proofs.TwinCalls

/-!
Programs that run the same with the cache and without. Hosts are given as programs: their look-ups
have fixed outcomes and do nothing that is seen, though they may preload other members and clear the
cache, and their other functions may nest dynamic operations to any depth.
-/
namespace HostBridge

open Exec

variable {P : Platform} {α : Type}

/-! ### Hosts -/

namespace Permit

/-- Dynamic operations, preloads and clears, and uses of memory by what can be told. -/
def calls (σ : Sight P) : Permit P where
  op o := o.isDynamic = true
  world := σ.Tells
  loud := True
  clears := True

/-- Preloads and clears, and uses of memory that are not seen. -/
def silent (σ : Sight P) : Permit P where
  op o := o.isPreload = true
  world f := σ.Hides (Sight.onWorld f)
  loud := False
  clears := True

end Permit

namespace Foreign

/-- A host whose look-ups have fixed outcomes and are not seen. -/
structure FixesLookups (F : Foreign P (Act P)) (σ : Sight P) (L : Lookups P) : Prop
    extends F.LookupsWithin (.silent σ) where
  type_fixed : ∀ R limit name s r, Like σ L s s →
    ((System.ofPrograms F).execBy R limit (F.host.resolveType name) s).1 = .value r →
      r = L.type name
  member_fixed : ∀ R limit type key s r, Like σ L s s →
    ((System.ofPrograms F).execBy R limit (F.host.resolveMember type key) s).1 = .value r →
      r = L.member key
  shareClass : ∀ c, σ.Hides (Function.uncurry (F.host.shareClass c))
  dropClass : ∀ c, σ.Hides (Function.uncurry (F.host.dropClass c))

/-- A host that nests dynamic operations and whose memory is used by what can be told. -/
structure NestsCalls (F : Foreign P (Act P)) (σ : Sight P) : Prop
    extends F.BodiesWithin (.calls σ) where
  shareObject : ∀ o, σ.Respects (Function.uncurry (F.host.shareObject o))
  dropObject : ∀ o, σ.Respects (Function.uncurry (F.host.dropObject o))

end Foreign

variable {σ : Sight P} {L : Lookups P}

/-! ### Look-ups as programs -/

/-- A silent program is not seen where the look-ups are not. -/
theorem Foreign.HidesLookups.silent_returns {G : Foreign P (Exec P)} (hides : G.HidesLookups σ L)
    (R : Resolution) {a : Act P α} (ha : a.Within (.silent σ)) (s : State P) :
    Returns (Like σ L s) (a.runBy R G) (fun _ => Like σ L s) := by
  induction ha with
  | pure a => exact Returns.pure fun _ h => h
  | bind hx hf ihx ihf => exact ihx.bind ihf
  | attempt hx ih =>
    refine ih.attempt.weaken fun r t h => ?_
    obtain ⟨a, -, h⟩ := h
    exact h
  | panic loud m => exact loud.elim
  | note loud n => exact loud.elim
  | world hidden =>
    intro t h
    refine .inr ⟨_, _, rfl, { h with sides := ?_ }⟩
    exact σ.trans h.sides (hidden (t.ledger, t.world) (σ.trans (σ.symm h.sides) h.sides))
  | op silent =>
    rename_i o
    cases o with
    | preload key => exact hides.preload_returns R key
    | _ => cases silent
  | clear clears ha ih => exact (hides.clear_returns R).bind fun _ => ih

namespace System

variable {F : Foreign P (Act P)} (fixes : F.FixesLookups σ L)
include fixes

/-- At every depth, look-ups have their fixed outcomes and are not seen, if silent programs at that
depth are not. -/
theorem hidesLookups {R : Resolution} {limit : Nat}
    (silent : ∀ {β : Type} {b : Act P β}, b.Within (.silent σ) → ∀ s,
      Returns (Like σ L s) ((ofPrograms F).execBy R limit b) (fun _ => Like σ L s)) :
    (ofPrograms F fun b => (ofPrograms F).execBy R limit b).HidesLookups σ L where
  type name s := by
    intro t h
    rcases silent (fixes.type name) s t h with deep | ⟨r, u, ran, like⟩
    · exact .inl deep
    · have value : ((ofPrograms F).execBy R limit (F.host.resolveType name) t).1 = .value r := by
        rw [ran]
      exact .inr ⟨r, u, ran, fixes.type_fixed R limit name t r h.refl_right value, like⟩
  member type key s := by
    intro t h
    rcases silent (fixes.member type key) s t h with deep | ⟨r, u, ran, like⟩
    · exact .inl deep
    · have value : ((ofPrograms F).execBy R limit (F.host.resolveMember type key) t).1 =
          .value r := by
        rw [ran]
      exact .inr ⟨r, u, ran, fixes.member_fixed R limit type key t r h.refl_right value, like⟩
  shareClass := fixes.shareClass
  dropClass := fixes.dropClass

theorem silent_returns (R : Resolution) (limit : Nat) {a : Act P α} (ha : a.Within (.silent σ))
    (s : State P) :
    Returns (Like σ L s) ((ofPrograms F).execBy R limit a) (fun _ => Like σ L s) := by
  induction limit generalizing α s with
  | zero => exact fun _ _ => .inl ⟨trivial, rfl⟩
  | succ limit ih => exact (hidesLookups fixes fun hb s => ih hb s).silent_returns R ha s

end System

/-! ### Programs -/

/-- A program of dynamic operations runs alike in foreign code of two kinds that are alike. -/
theorem Foreign.Twins.act_alike {F G : Foreign P (Exec P)} (twins : F.Twins G σ L)
    (R S : Resolution) {a : Act P α} (ha : a.Within (.calls σ)) :
    Alike (Like σ L) (a.runBy R F) (a.runBy S G) := by
  induction ha with
  | pure a => exact Alike.pure
  | bind hx hf ihx ihf => exact ihx.bind ihf
  | attempt hx ih => exact ih.attempt
  | panic loud m => exact Alike.panic
  | note loud n => exact Like.record_alike _
  | world tells =>
    intro s t h
    refine .inr (.inr ⟨congrArg Outcome.value (tells.1 _ _ h.sides), { h with sides := ?_ }⟩)
    exact tells.2 _ _ h.sides
  | op dynamic => exact twins.op_alike R S _ (by simpa [Permit.calls, Op.isDynamic] using dynamic)
  | clear clears ha ih =>
    have cleared := (twins.clear_alike R S).bind fun _ => ih
    rw [bind_assoc, bind_assoc] at cleared
    exact cleared

namespace System

variable {F : Foreign P (Act P)} (fixes : F.FixesLookups σ L) (nests : F.NestsCalls σ)
include fixes nests

/-- Programs of dynamic operations run alike wherever types and members come from. -/
theorem execBy_alike (R S : Resolution) (limit : Nat) {a : Act P α} (ha : a.Within (.calls σ)) :
    Alike (Like σ L) ((ofPrograms F).execBy R limit a) ((ofPrograms F).execBy S limit a) := by
  induction limit generalizing α with
  | zero => exact fun _ _ _ => .inl rfl
  | succ limit ih =>
    have twins : (ofPrograms F fun b => (ofPrograms F).execBy R limit b).Twins
        (ofPrograms F fun b => (ofPrograms F).execBy S limit b) σ L := {
      left := hidesLookups fixes fun hb s => silent_returns fixes R limit hb s
      right := hidesLookups fixes fun hb s => silent_returns fixes S limit hb s
      share := fun o => Like.upkeep_alike (nests.shareObject o)
      drop := fun o => Like.upkeep_alike (nests.dropObject o)
      construct := fun type member args => ih (nests.construct type member args)
      invoke := fun receiver member result args => ih (nests.invoke receiver member result args)
      readField := fun receiver member kind => ih (nests.readField receiver member kind)
      writeField := fun receiver member value => ih (nests.writeField receiver member value) }
    exact twins.act_alike R S ha

end System

/-! ### What the cache does and does not change -/

/-- Two runs that cannot be told apart: they end in the same way, with the same objects behind the
same handles, and all that happened besides look-ups is the same. -/
structure SameRun (x y : Outcome α × State P) : Prop where
  outcome : x.1 = y.1
  deeds : x.2.deeds = y.2.deeds
  handles : x.2.bridge.handles = y.2.bridge.handles

/-- The host is asked for what is not in the cache and for nothing else, and a look-up that fails
leaves the cache as it is. -/
structure Foreign.AsksOnDemand (F : Foreign P (Exec P)) : Prop where
  known : ∀ {β : Type} (o : Op P β) key s, o.key? = some key → s.bridge.members.Knows key →
    ∀ X Y, o.run (F.withLookups X Y) s = o.run F s
  preloaded : ∀ key s t, (Op.preload key).run F s = (.value (.ok ()), t) →
    t.bridge.members.Knows key
  type_asks : ∀ name s, s.bridge.members.hasType name = false →
    Asks s (.resolveType name) (Members.type F name)
  type_failed : ∀ name s e t, Members.type F name s = (.value (.error e), t) →
    t.bridge.members = s.bridge.members ∧ s.bridge.members.hasType name = false
  member_asks : ∀ type key s, s.bridge.members.hasMember key = false →
    Asks s (.resolveMember type key) (Members.member F type key)
  member_failed : ∀ type key s e t, Members.member F type key s = (.value (.error e), t) →
    t.bridge.members = s.bridge.members ∧ s.bridge.members.hasMember key = false

namespace System

variable {F : Foreign P (Act P)}

theorem asksOnDemand (lookups : F.LookupsWithin .aside) (limit : Nat) :
    ((ofPrograms F).foreign limit).AsksOnDemand where
  known _ _ _ about known := Op.run_known _ about known
  preloaded _ _ _ ran := preload_fills lookups ran
  type_asks name _ missing := Asks.type missing fun _ =>
    aside_keeps GrownFrom.inert (fun _ _ h => h.record) limit (lookups.type name)
  type_failed _ _ _ _ ran := type_failed lookups ran
  member_asks type key _ missing := Asks.member missing fun _ =>
    aside_keeps GrownFrom.inert (fun _ _ h => h.record) limit (lookups.member type key)
  member_failed _ _ _ _ _ ran := member_failed lookups ran

/-- The cache of a host whose look-ups have fixed outcomes cannot be told from none. If look-ups do
not come back to the cache, no type and no member is found twice, or although it was in the cache,
from one clear to the next, and the host is asked for what is not in the cache alone. -/
theorem caching_transparent (fixes : F.FixesLookups σ L) (nests : F.NestsCalls σ) (limit : Nat) :
    (∀ {β : Type} (a : Act P β) s, a.Within (.calls σ) →
      σ.Same (s.ledger, s.world) (s.ledger, s.world) → s.bridge.members.Agrees L →
      ¬((ofPrograms F).exec limit a).NestsTooDeep s →
      ¬((ofPrograms F).execBy .anew limit a).NestsTooDeep s →
        SameRun ((ofPrograms F).exec limit a s) ((ofPrograms F).execBy .anew limit a s)) ∧
    (F.LookupsWithin .aside → F.BodiesWithin .clearFree →
      ∀ {β : Type} (a : Act P β) s, a.Within .clearFree →
        ∃ new, FoundOnce s new ((ofPrograms F).exec limit a s).2) ∧
    (F.LookupsWithin .aside → ((ofPrograms F).foreign limit).AsksOnDemand) := by
  refine ⟨fun a s within seen agrees shallow shallow' => ?_,
    fun lookups bodies _ a s within => ?_, fun lookups => asksOnDemand lookups limit⟩
  · have like : Like σ L s s := ⟨rfl, rfl, rfl, seen, agrees, agrees⟩
    have alike := execBy_alike fixes nests .cached .anew limit within s s like
    rw [execBy_cached] at alike
    obtain deep | deep | ⟨outcome, like⟩ := alike
    · exact (shallow deep).elim
    · exact (shallow' deep).elim
    · exact ⟨outcome, like.deeds, like.handles⟩
  · have filled := exec_filled lookups bodies limit within s s .refl
    rcases ran : (ofPrograms F).exec limit a s with ⟨r | m | w, t⟩ <;> rw [ran] at filled <;>
      exact filled

end System

/-! ### The plain world -/

namespace Plain

/-- Everything is seen. -/
def sight : Sight platform := ⟨Eq, Eq.symm, Eq.trans⟩

/-- Every type and every member is its own token. -/
def lookups : Lookups platform := ⟨.ok, .ok⟩

theorem world_within {β : Type} (f : platform.World → β × platform.World) :
    (Act.world f).Within (.calls sight) := by
  refine .world (And.intro (fun a b same => ?_) fun a b same => ?_)
  · cases same
    rfl
  · cases same
    rfl

theorem idle_fixesLookups : idle.FixesLookups sight lookups where
  type _ := .pure _
  member _ _ := .pure _
  type_fixed R limit name s r _ ran := by
    cases limit with
    | zero => cases ran
    | succ limit =>
      cases ran
      rfl
  member_fixed R limit type key s r _ ran := by
    cases limit with
    | zero => cases ran
    | succ limit =>
      cases ran
      rfl
  shareClass _ _ _ := rfl
  dropClass _ _ _ := rfl

theorem idle_nestsCalls : idle.NestsCalls sight where
  construct _ _ _ := .pure _
  invoke _ _ _ _ := .pure _
  readField _ _ _ := world_within _
  writeField _ _ _ := world_within _
  shareObject _ _ _ same := same
  dropObject _ _ _ same := same

theorem creation_within (p : Permit platform)
    (permitted : p.op (.createObject "Point" "(I)V" [.ofInt32 7])) : creation.Within p :=
  .bind (.op permitted) fun _ => .pure _

end Plain

namespace System

/-- Two objects are made alike with the cache and without, where the type is looked up twice. -/
theorem caching_transparent_plain :
    let system := ofPrograms Plain.idle
    let twice := Plain.creation.bind fun _ => Plain.creation
    SameRun (system.exec 2 twice Plain.start) (system.execBy .anew 2 twice Plain.start) ∧
      typesFound (system.exec 2 twice Plain.start).2.record = ["Point"] ∧
      typesFound (system.execBy .anew 2 twice Plain.start).2.record = ["Point", "Point"] ∧
      (∃ new, FoundOnce Plain.start new (system.exec 2 twice Plain.start).2) ∧
      (system.foreign 1).AsksOnDemand := by
  obtain ⟨same, once, -⟩ :=
    caching_transparent Plain.idle_fixesLookups Plain.idle_nestsCalls 2
  have aside : Plain.idle.LookupsWithin .aside := ⟨fun _ => .pure _, fun _ _ => .pure _⟩
  have bodies : Plain.idle.BodiesWithin .clearFree :=
    ⟨fun _ _ _ => .pure _, fun _ _ _ _ => .pure _, fun _ _ _ => .world trivial,
      fun _ _ _ => .world trivial⟩
  have made := Plain.creation_within (.calls Plain.sight) rfl
  have made' := Plain.creation_within .clearFree rfl
  refine ⟨same _ _ (.bind made fun _ => made) rfl ⟨nofun, nofun⟩ nofun nofun, rfl, rfl,
    once aside bodies _ _ (.bind made' fun _ => made'), ?_⟩
  exact (caching_transparent Plain.idle_fixesLookups Plain.idle_nestsCalls 1).2.2 aside

end System
end HostBridge
