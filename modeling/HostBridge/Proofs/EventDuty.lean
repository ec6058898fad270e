import HostBridge.Proofs.EventRules
import HostBridge.Proofs.HiddenCache
import HostBridge.Proofs.Permits
import Mathlib.Algebra.Ring.Int.Defs

/-!
Duty at events. A state shows what is registered and what was called, and a thread stands somewhere
in a session that runs: inside or not, with so many scopes of the VM open. An entry, a scope and
what is not seen leave the first alone and bring the thread back where it stood.
-/
namespace HostBridge

open Exec

variable {P : Platform} {α : Type} {σ : Sight P}

/-! ### Programs about events -/

/-- Whether a call of the interface is about handlers and events. -/
def Op.isEventful : Op P α → Bool
  | setHandler _ _ | dispatch _ _ | callHandler _ _ => true
  | _ => false

namespace Permit

/-- Registrations and events, and uses of memory by what can be told. -/
def events (σ : Sight P) : Permit P where
  op o := o.isEventful = true
  world := σ.Tells
  loud := True
  clears := False

/-- Uses of memory that are not seen. -/
def hidden (σ : Sight P) : Permit P where
  op _ := False
  world f := σ.Hides (Sight.onWorld f)
  loud := False
  clears := False

end Permit

/-- Foreign code whose handlers and microtasks register handlers and have events delivered, and
whose VM can enter its isolate without being seen. -/
structure Foreign.ServesEvents (F : Foreign P (Act P)) (σ : Sight P) : Prop where
  handler : ∀ h k args, (F.handler h k args).Within (.events σ)
  drain : F.vm.drain.Within (.events σ)
  /-- The panics of microtasks stay in the VM. -/
  calm : ∀ g m g', ¬F.Runs F.vm.drain g (.error m) g'
  enterIsolate : ∀ i, (F.vm.enterIsolate i).Within (.hidden σ)
  enters : ∀ limit i s r, σ.Same (s.ledger, s.world) (s.ledger, s.world) →
    ((System.ofPrograms F).exec limit (F.vm.enterIsolate i) s).1 = .value r → r = .ok ()
  exitIsolate : F.vm.exitIsolate.Within (.hidden σ)
  enterScope : F.vm.enterScope.Within (.hidden σ)
  exitScope : F.vm.exitScope.Within (.hidden σ)

/-! ### What a state shows -/

/-- What an event of the registry puts on record. -/
def RegistryEvent.happening? : RegistryEvent P → Option (Happening P)
  | .registered _ _ => none
  | .called k handler args => some (.handlerCall k handler args)
  | .drained => some (.vmCall .drain)
  | .noted n => some (.note n)

/-- Whether a happening is a call of a handler or of the microtasks, or a note. -/
def Happening.isEventful : Happening P → Bool
  | .handlerCall _ _ _ | .vmCall .drain | .note _ => true
  | _ => false

/-- The state has the handlers of the registry, its record has the calls in the log and no others,
and the sides are seen as they are in the registry. -/
structure Registry.Shows (σ : Sight P) (g : Registry P) (s : State P) : Prop where
  handlers : s.bridge.handlers = g.handler
  deeds : s.record.filter Happening.isEventful = g.log.filterMap RegistryEvent.happening?
  sides : σ.Same g.sides (s.ledger, s.world)

/-- What a happening is to a registry. -/
def Happening.event? : Happening P → Option (RegistryEvent P)
  | .handlerCall k handler args => some (.called k handler args)
  | .vmCall .drain => some .drained
  | .note n => some (.noted n)
  | _ => none

theorem Happening.happening?_event? (e : Happening P) :
    e.event?.bind RegistryEvent.happening? = Option.guard Happening.isEventful e := by
  cases e with
  | vmCall c => cases c <;> rfl
  | _ => rfl

/-- The registry of a state, as if all its handlers had been registered just now. -/
def State.registry (s : State P) : Registry P where
  log := EventKind.all.map (fun k => .registered k (s.bridge.handlers k)) ++
    s.record.filterMap Happening.event?
  sides := (s.ledger, s.world)

/-- Every state shows a registry. -/
theorem State.registry_shows {s : State P}
    (seen : σ.Same (s.ledger, s.world) (s.ledger, s.world)) : s.registry.Shows σ s where
  handlers := by
    funext k
    have last (kinds : List EventKind) (mem : k ∈ kinds) (earlier : List (RegistryEvent P)) :
        Registry.lastRegistered k
          (kinds.map (fun j => .registered j (s.bridge.handlers j)) ++ earlier) =
          s.bridge.handlers k := by
      induction kinds with
      | nil => cases mem
      | cons j kinds ih =>
        by_cases same : j = k
        · simp [Registry.lastRegistered, same]
        · have mem := List.mem_of_ne_of_mem (Ne.symm same) mem
          simpa [Registry.lastRegistered, same] using ih mem
    exact (last _ (EventKind.mem_all k) _).symm
  deeds := by
    have registrations (kinds : List EventKind) : (kinds.map fun k =>
        RegistryEvent.registered k (s.bridge.handlers k)).filterMap RegistryEvent.happening? =
          [] := by
      induction kinds with
      | nil => rfl
      | cons k kinds ih => exact ih
    unfold State.registry
    rw [List.filterMap_append, registrations, List.nil_append, List.filterMap_filterMap]
    simp only [Happening.happening?_event?, List.filterMap_eq_filter]
  sides := seen

/-- How many scopes of the VM a happening opens. -/
def Happening.opens : Happening P → Int
  | .vmCall .enterScope => 1
  | .vmCall .exitScope => -1
  | _ => 0

/-- Where a thread stands in a session, and how many scopes are open. -/
structure Station (P : Platform) where
  phase : Phase
  guard : Guard
  isolate : Option P.Isolate
  thread : ThreadId
  scopes : Int

def State.station (s : State P) : Station P :=
  ⟨s.bridge.phase, s.bridge.guard, s.bridge.isolate, s.thread,
    (s.record.map Happening.opens).sum⟩

namespace Station

/-- Events are delivered: a session runs, and the thread is inside or nobody is. -/
structure IsOpen (v : Station P) : Prop where
  phase : v.phase = .running
  isolate : ∃ i, v.isolate = some i
  guard : v.guard = {} ∨ v.guard.heldBy v.thread = true

/-- Which entry a thread gets. -/
def Admits (v : Station P) : Entry → Prop
  | .outer => v.guard = {}
  | .nested => v.guard.heldBy v.thread = true

/-- After an entry. -/
def enter (v : Station P) : Entry → Station P
  | .outer => { v with guard := ⟨true, some v.thread, 1⟩ }
  | .nested => { v with guard := v.guard.deepen }

/-- After so many scopes were opened. -/
def inScopes (v : Station P) (n : Int) : Station P := { v with scopes := n + v.scopes }

theorem inScopes_zero (v : Station P) : v.inScopes 0 = v := by simp [inScopes]

theorem inScopes_back (v : Station P) : (v.inScopes 1).inScopes (-1) = v := by
  have back : -1 + (1 + v.scopes) = v.scopes := by omega
  simp only [inScopes, back]

theorem heldBy_deepen {g : Guard} {me : ThreadId} (held : g.heldBy me = true) :
    g.deepen.heldBy me = true := by
  simp only [Guard.heldBy, Guard.deepen, Bool.and_eq_true] at held ⊢
  exact ⟨decide_eq_true (Nat.succ_pos _), held.2⟩

theorem IsOpen.enter {v : Station P} (isOpen : v.IsOpen) {e : Entry} (admits : v.Admits e) :
    (v.enter e).IsOpen := by
  refine ⟨?_, ?_, .inr ?_⟩
  · cases e <;> exact isOpen.phase
  · cases e <;> exact isOpen.isolate
  · cases e with
    | outer => simp [Station.enter, Guard.heldBy]
    | nested => exact heldBy_deepen admits

theorem IsOpen.inScopes {v : Station P} (isOpen : v.IsOpen) (n : Int) : (v.inScopes n).IsOpen :=
  ⟨isOpen.phase, isOpen.isolate, isOpen.guard⟩

end Station

/-- States that show a registry from a station. -/
def OnDuty (σ : Sight P) (g : Registry P) (v : Station P) (s : State P) : Prop :=
  g.Shows σ s ∧ s.station = v

namespace OnDuty

variable {g : Registry P} {v : Station P} {s : State P} {deep : Prop}

theorem self (h : g.Shows σ s) : OnDuty σ g s.station s := ⟨h, rfl⟩

/-- What the state says of its station is known. -/
theorem ask {α β : Type} (f : Station P → β) {read : State P → β}
    (h : ∀ s, read s = f s.station) {next : β → Exec P α} {post : α → State P → Prop}
    (hnext : Returns (OnDuty σ g v) (next (f v)) post deep) :
    Returns (OnDuty σ g v) (Exec.gets read >>= next) post deep := by
  apply Returns.asks.bind
  rintro b s ⟨rfl, hs⟩
  rw [h, hs.2]
  exact hnext s hs

/-- A happening that is not about events is put on record. -/
theorem recordScoped {e : Happening P} (other : e.isEventful = false) :
    Returns (OnDuty σ g v) (Exec.record e)
      (fun _ => OnDuty σ g (v.inScopes e.opens)) deep := by
  apply Returns.modify
  rintro s ⟨shows, rfl⟩
  refine ⟨{ shows with deeds := ?_ }, rfl⟩
  rw [List.filter_cons_of_neg (by simp [other])]
  exact shows.deeds

theorem record {e : Happening P} (other : e.isEventful = false) (flat : e.opens = 0) :
    Returns (OnDuty σ g v) (Exec.record e) (fun _ => OnDuty σ g v) deep := by
  apply (recordScoped other).weaken
  intro _ s h
  rwa [flat, Station.inScopes_zero] at h

/-- A happening that is logged is put on record. -/
theorem log {e : Happening P} {x : RegistryEvent P} (same : x.happening? = some e)
    (eventful : e.isEventful = true) (flat : e.opens = 0) (kept : (g.add x).handler = g.handler) :
    Returns (OnDuty σ g v) (Exec.record e) (fun _ => OnDuty σ (g.add x) v) deep := by
  apply Returns.modify
  rintro s ⟨shows, rfl⟩
  refine ⟨⟨?_, ?_, shows.sides⟩, ?_⟩
  · exact shows.handlers.trans kept.symm
  · rw [List.filter_cons_of_pos eventful, shows.deeds]
    simp [Registry.add, same]
  · simp [State.station, flat]

theorem setGuard (f : Guard → Guard) : Returns (OnDuty σ g v) (Isolate.setGuard f)
    (fun _ => OnDuty σ g { v with guard := f v.guard }) deep := by
  apply Returns.modify
  rintro s ⟨shows, rfl⟩
  exact ⟨⟨shows.handlers, shows.deeds, shows.sides⟩, rfl⟩

/-- A handler is registered. -/
theorem register (k : EventKind) (handler : Option P.Handler) :
    Returns (OnDuty σ g v) (Dispatch.setHandler k handler)
      (fun _ => OnDuty σ (g.add (.registered k handler)) v) deep := by
  apply Returns.modify
  rintro s ⟨shows, rfl⟩
  refine ⟨⟨?_, shows.deeds, shows.sides⟩, rfl⟩
  funext j
  change s.bridge.handlers.set k handler j = _
  rw [shows.handlers]
  change (if j = k then handler else g.handler j) = if k = j then handler else g.handler j
  simp only [eq_comm]

/-- Foreign code uses its memory. -/
theorem useWorld {f : P.World → α × P.World} (tells : σ.Tells f) :
    Returns (OnDuty σ g v) (Act.useWorld f) (fun a s => a = (f g.sides.2).1 ∧
      OnDuty σ { g with sides := (g.sides.1, (f g.sides.2).2) } v s) deep := by
  rintro s ⟨shows, rfl⟩
  refine .inr ⟨_, _, rfl, (tells.1 _ _ shows.sides).symm, ?_, rfl⟩
  exact ⟨shows.handlers, shows.deeds, tells.2 _ _ shows.sides⟩

end OnDuty

namespace System

variable {F : Foreign P (Act P)} {limit : Nat} {g : Registry P} {v : Station P} {deep : Prop}

/-! ### Entries and scopes -/

section
variable (shallow : deep ∨ 0 < limit)
include shallow

/-- What is not seen changes nothing. -/
theorem hidden_returns {a : Act P α} (ha : a.Within (.hidden σ)) :
    Returns (OnDuty σ g v) ((ofPrograms F).exec limit a) (fun _ => OnDuty σ g v) deep := by
  cases limit with
  | zero => exact fun _ _ => .inl ⟨shallow.resolve_right (Nat.lt_irrefl 0), rfl⟩
  | succ limit =>
    change Returns _ (a.run ((ofPrograms F).foreign limit)) _ _
    induction ha with
    | pure a => exact Returns.pure fun _ h => h
    | bind hx hf ihx ihf => exact ihx.bind ihf
    | attempt hx ih =>
      apply ih.attempt.weaken
      rintro r s ⟨a, -, h⟩
      exact h
    | panic loud m => exact loud.elim
    | note loud n => exact loud.elim
    | world hidden =>
      rintro s ⟨shows, rfl⟩
      have seen := hidden (s.ledger, s.world) (σ.trans (σ.symm shows.sides) shows.sides)
      exact .inr ⟨_, _, rfl, ⟨shows.handlers, shows.deeds, σ.trans shows.sides seen⟩, rfl⟩
    | op never => exact never.elim
    | clear never ha ih => exact never.elim

variable (serves : F.ServesEvents σ)
include serves

/-- The VM enters the isolate. -/
theorem callEnterIsolate_returns (i : P.Isolate) :
    Returns (OnDuty σ g v) (((ofPrograms F).foreign limit).vm.callEnterIsolate i)
      (fun r s => r = .ok () ∧ OnDuty σ g v s) deep := by
  have entered : Returns (OnDuty σ g v) (((ofPrograms F).foreign limit).vm.enterIsolate i)
      (fun r s => r = .ok () ∧ OnDuty σ g v s) deep := by
    intro s hs
    rcases hidden_returns (F := F) shallow (serves.enterIsolate i) s hs with
      nests | ⟨r, t, ran, ht⟩
    · exact .inl nests
    · have seen := σ.trans (σ.symm hs.1.sides) hs.1.sides
      exact .inr ⟨r, t, ran, serves.enters limit i s r seen (congrArg Prod.fst ran), ht⟩
  apply (OnDuty.record rfl rfl).bind
  intro _
  apply entered.bind
  intro r
  apply Returns.of_and
  rintro rfl
  apply (OnDuty.record rfl rfl).bind
  exact fun _ => Returns.pure fun _ h => ⟨rfl, h⟩

/-- The isolate on record is made current. -/
theorem activate_returns {i : P.Isolate} (recorded : v.isolate = some i) :
    Returns (OnDuty σ g v) (Isolate.activate ((ofPrograms F).foreign limit))
      (fun r s => r = true ∧ OnDuty σ g v s) deep := by
  unfold Isolate.activate
  apply OnDuty.ask Station.isolate fun _ => rfl
  rw [recorded]
  apply (callEnterIsolate_returns shallow serves i).bind
  intro r
  apply Returns.of_and
  rintro rfl
  exact Returns.pure fun _ h => ⟨rfl, h⟩

/-- A thread gets in, and is inside then. -/
theorem enter_returns (isOpen : v.IsOpen) :
    Returns (OnDuty σ g v) (Isolate.enter ((ofPrograms F).foreign limit))
      (fun r s => ∃ e, r = some e ∧ v.Admits e ∧ OnDuty σ g (v.enter e) s) deep := by
  unfold Isolate.enter
  apply OnDuty.ask Station.thread fun _ => rfl
  apply OnDuty.ask Station.guard fun _ => rfl
  by_cases held : v.guard.heldBy v.thread = true
  · have nested : v.guard.admission v.thread = .nested := by simp [Guard.admission, held]
    rw [nested]
    apply (OnDuty.setGuard .deepen).bind
    exact fun _ => Returns.pure fun _ h => ⟨.nested, rfl, held, h⟩
  · have new : v.guard = {} := isOpen.guard.resolve_right held
    have gate : v.guard.admission v.thread = .gate := by
      rw [new]
      simp [Guard.admission, Guard.heldBy]
    obtain ⟨i, recorded⟩ := isOpen.isolate
    have isolate : { v with guard := v.guard.takeGate }.isolate = some i := recorded
    rw [gate]
    apply (OnDuty.setGuard .takeGate).bind
    intro _
    apply (activate_returns shallow serves isolate).onPanic.bind
    intro r
    apply Returns.of_and
    rintro rfl
    apply (OnDuty.setGuard (·.settle v.thread)).bind
    intro _
    apply Returns.pure
    intro s h
    refine ⟨.outer, rfl, new, ?_⟩
    rwa [new] at h

/-- An entry is dropped, and everything is as before it. -/
theorem leave_returns {e : Entry} (admits : v.Admits e) :
    Returns (OnDuty σ g (v.enter e)) (Isolate.leave ((ofPrograms F).foreign limit) e)
      (fun _ => OnDuty σ g v) deep := by
  unfold Isolate.leave
  apply OnDuty.ask Station.thread fun _ => rfl
  apply OnDuty.ask Station.guard fun _ => rfl
  cases e with
  | outer =>
    have own : (v.enter .outer).guard.foreignTo (v.enter .outer).thread = false := by
      simp [Station.enter, Guard.foreignTo]
    have left : Returns (OnDuty σ g (v.enter .outer))
        ((ofPrograms F).foreign limit).vm.callExitIsolate
        (fun _ => OnDuty σ g (v.enter .outer)) deep :=
      (OnDuty.record rfl rfl).bind fun _ => hidden_returns shallow serves.exitIsolate
    simp only [own]
    apply left.bind
    intro _
    apply (OnDuty.setGuard .vacate).weaken
    intro _ s h
    have back : { v.enter .outer with guard := (v.enter .outer).guard.vacate } = v := by
      cases v
      cases admits
      rfl
    rwa [back] at h
  | nested =>
    have own : (v.enter .nested).guard.foreignTo (v.enter .nested).thread = false := by
      have held := admits
      simp only [Station.Admits, Guard.heldBy, Bool.and_eq_true] at held
      simp [Station.enter, Guard.deepen, Guard.foreignTo, eq_of_beq held.2]
    simp only [own]
    exact OnDuty.setGuard .rise

/-- A scope is open around what runs in it, which must not panic. -/
theorem inScope_returns {β : Type} {x : Exec P β} (ends : β → Registry P → Prop)
    (hx : Returns (OnDuty σ g (v.inScopes 1)) x
      (fun b s => ∃ g', ends b g' ∧ OnDuty σ g' (v.inScopes 1) s) deep) :
    Returns (OnDuty σ g v) (Isolate.inScope ((ofPrograms F).foreign limit) x)
      (fun b s => ∃ g', ends b g' ∧ OnDuty σ g' v s) deep := by
  have entered : Returns (OnDuty σ g v) ((ofPrograms F).foreign limit).vm.callEnterScope
      (fun _ => OnDuty σ g (v.inScopes 1)) deep :=
    (OnDuty.recordScoped rfl).bind fun _ => hidden_returns shallow serves.enterScope
  have left (g' : Registry P) : Returns (OnDuty σ g' (v.inScopes 1))
      ((ofPrograms F).foreign limit).vm.callExitScope (fun _ => OnDuty σ g' v) deep := by
    apply (OnDuty.recordScoped rfl).bind
    intro _
    have back : (v.inScopes 1).inScopes (Happening.vmCall (.exitScope : VmCall P)).opens = v :=
      v.inScopes_back
    rw [back]
    exact hidden_returns shallow serves.exitScope
  apply entered.bind
  intro _
  apply hx.bind
  intro b
  apply Returns.of_some
  intro g' ended
  apply (left g').bind
  intro _
  exact Returns.pure fun _ h => ⟨g', ended, h⟩

end

end System
end HostBridge
