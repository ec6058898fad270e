import HostBridge.Proofs.Footing
import HostBridge.Proofs.SessionContract

/-!
Entries into the isolate from any footing. Whatever panics inside, the outer entry is dropped on the
way out, and the isolate is left.
-/
namespace HostBridge

open Exec VmEvent

variable {P : Platform} {α : Type}

/-- Keeps every footing inside. -/
abbrev KeepsInside (x : Exec P α) : Prop :=
  ∀ thread i depth, Keeps (On (Footing.inside (P := P) thread i depth).Holds) Momentary x

/-- A call that neither enters nor leaves an isolate. -/
theorem Stance.IsInside.grow {thread : ThreadId} {i : P.Isolate} {depth : Nat} {v : Stance P}
    (h : v.IsInside thread i depth) {e : VmEvent P}
    (stays : VmView.step { current := some i } e = { current := some i }) :
    (v.grow [e]).IsInside thread i depth where
  phase := h.phase
  guard := h.guard
  isolate := h.isolate
  thread := h.thread
  view := by rw [view_cons, h.view, stays]

namespace KeepsFootings

variable {F : Foreign P (Exec P)} (K : KeepsFootings F)
include K

/-! ### Inside -/

omit K in
theorem call_inside {c : VmCall P} {x : Exec P Unit} (hx : KeepsFooting x)
    (stays : ∀ i, VmView.step { current := some i } (.inl c) = { current := some i }) :
    KeepsInside (do
      Exec.record (.vmCall c)
      x) := by
  intro thread i depth
  have called : Keeps (On (Footing.inside thread i depth).Holds) Momentary
      (Exec.record (.vmCall c)) := On.record fun _ hv => Stance.IsInside.grow hv (stays i)
  exact called.bind fun _ => hx (.inside thread i depth)

theorem inScope_inside {x : Exec P α} (hx : KeepsInside x) : KeepsInside (Isolate.inScope F x) := by
  intro thread i depth
  unfold Isolate.inScope
  apply Keeps.bind (call_inside K.enterScope (fun _ => rfl) thread i depth)
  intro _
  apply (hx thread i depth).bind
  intro a
  apply Keeps.bind (call_inside K.exitScope (fun _ => rfl) thread i depth)
  exact fun _ => Keeps.pure

theorem drain_inside : KeepsInside (Isolate.drain F) := by
  intro thread i depth
  have drained : Keeps (On (Footing.inside thread i depth).Holds) Momentary F.vm.callDrain := by
    apply On.tryCall (fun _ hv => Stance.IsInside.grow hv rfl) (K.drain (.inside thread i depth))
    · exact fun _ _ hv => Stance.IsInside.grow hv rfl
    · exact fun _ _ hv => Stance.IsInside.grow hv rfl
  unfold Isolate.drain
  apply drained.bind
  intro r
  cases r with
  | ok _ => exact Keeps.pure
  | error e => exact On.report

theorem callHandler_keeps (k : EventKind) (args : Args k.params) :
    KeepsFooting (Dispatch.callHandler F k args) := by
  intro σ
  unfold Dispatch.callHandler
  apply Keeps.bridge.bind
  intro handlers
  split
  · exact Keeps.bind (Keeps.record fun _ => On.recordOther rfl) fun _ => K.handler _ k args σ
  · exact Keeps.pure

theorem deliver_inside (k : EventKind) (args : Args k.params) :
    KeepsInside (Dispatch.deliver F k args) := by
  have handled : KeepsInside (do
      let r ← (Dispatch.callHandler F k args).attempt
      if k.drainsMicrotasks then Isolate.drain F
      return r) := by
    intro thread i depth
    apply (Keeps.attempt (K.callHandler_keeps k args _)).bind
    intro r
    split
    · exact (K.drain_inside thread i depth).bind fun _ => Keeps.pure
    · exact Keeps.pure
  intro thread i depth
  unfold Dispatch.deliver
  apply Keeps.bind (K.inScope_inside handled thread i depth)
  intro r
  cases r with
  | ok x => exact Keeps.pure
  | error m => exact Keeps.bind On.report fun _ => Keeps.pure

end KeepsFootings

/-! ### The way in -/

/-- A thread has taken the gate and is about to enter the isolate, with the VM led to `w`. -/
structure Stance.IsEntering (thread : ThreadId) (i : P.Isolate) (w : VmView P) (v : Stance P) :
    Prop where
  phase : v.phase = .running
  guard : v.guard = { gateTaken := true }
  isolate : v.isolate = some i
  thread : v.thread = thread
  view : v.view = w

theorem Stance.IsEntering.grow {thread : ThreadId} {i : P.Isolate} {w : VmView P} {v : Stance P}
    (h : v.IsEntering thread i w) (e : VmEvent P) :
    (v.grow [e]).IsEntering thread i (w.step e) where
  phase := h.phase
  guard := h.guard
  isolate := h.isolate
  thread := h.thread
  view := by rw [view_cons, h.view]

/-- Whatever the VM does while it is asked to enter, it changes nothing. -/
theorem KeepsFooting.entering {x : Exec P α} (hx : KeepsFooting x) {thread : ThreadId}
    {i : P.Isolate} :
    Keeps (On (Stance.IsEntering thread i { asked := some i })) Momentary x := by
  apply On.of_at
  intro v hv
  have asked : v.IsSwitching := .inl ⟨i, getLast_of_asked (congrArg VmView.asked hv.view)⟩
  have still : v.IsStill := .inr ⟨hv.phase, hv.guard, congrArg VmView.current hv.view, asked⟩
  apply (hx (.still v)).conseq
  · intro _ hs
    exact ⟨still, hs⟩
  · rintro _ s ⟨-, hs⟩
    exact On.intro hv hs
  · rintro s ⟨-, hs⟩
    exact On.intro hv hs
  · exact fun _ h => h

namespace KeepsFootings

variable {F : Foreign P (Exec P)} (K : KeepsFootings F)
include K

/-- The VM enters the isolate or refuses to. -/
theorem callEnterIsolate_entering {thread : ThreadId} {i : P.Isolate} {asked : Option P.Isolate} :
    Triple (On (Stance.IsEntering thread i { asked := asked })) (F.vm.callEnterIsolate i)
      (fun r => On (match r with
        | .ok _ => Stance.IsEntering thread i { current := some i }
        | .error _ => Stance.IsEntering thread i {}))
      (On (Stance.IsEntering thread i { asked := some i })) Momentary := by
  apply On.tryCall (fun _ hv => Stance.IsEntering.grow hv (.inl (.enterIsolate i)))
    (K.enterIsolate i).entering
  · exact fun _ _ hv => Stance.IsEntering.grow hv (.inr .done)
  · exact fun e _ hv => Stance.IsEntering.grow hv (.inr (.failed e))

theorem activate_entering {thread : ThreadId} {i : P.Isolate} {asked : Option P.Isolate} :
    Triple (On (Stance.IsEntering thread i { asked := asked })) (Isolate.activate F)
      (fun r => match r with
        | true => On (Stance.IsEntering thread i { current := some i })
        | false => On (Stance.IsEntering thread i {}))
      (On (Stance.IsEntering thread i { asked := some i })) Momentary := by
  unfold Isolate.activate
  refine Triple.bind Triple.asks fun found => Triple.of_pre ?_
  rintro s ⟨hfound, hs⟩
  have recorded : found = some i := hfound.trans hs.isolate
  subst recorded
  refine Triple.bind (K.callEnterIsolate_entering.of_imp fun t ht => ht ▸ hs) fun r => ?_
  cases r with
  | ok _ => exact Triple.pure fun _ h => h
  | error e => exact Triple.bind On.report fun _ => Triple.pure fun _ h => h

/-- Who finds the gate free takes it; the VM may refuse or panic, and then it is free again. -/
theorem enter_outside {v : Stance P} {i : P.Isolate} (running : v.phase = .running)
    (guard : v.guard = {}) (left : v.view.IsLeft) (isolate : v.isolate = some i) :
    Triple (At v) (Isolate.enter F)
      (fun r => match r with
        | some e => On fun u => e = .outer ∧ u.IsInside v.thread i 0
        | none => On Footing.outside.Holds)
      (On Footing.outside.Holds) Momentary := by
  have view : v.view = { asked := v.view.asked } := by
    rcases hview : v.view with ⟨asked, current, starting⟩
    rw [hview] at left
    obtain ⟨rfl, rfl⟩ := left
    rfl
  have freed {asked : Option P.Isolate} {E H : State P → Prop} :
      Triple (On (Stance.IsEntering v.thread i { asked := asked })) (Isolate.setGuard .freeGate)
        (fun _ => On Footing.outside.Holds) E H := by
    apply Triple.update
    intro s hs
    refine ⟨congrArg Guard.freeGate hs.guard, .inr ⟨?_, .inr ⟨hs.phase, i, hs.isolate⟩⟩⟩
    change s.stance.view.IsLeft
    rw [hs.view]
    exact ⟨rfl, rfl⟩
  have settled {E H : State P → Prop} :
      Triple (On (Stance.IsEntering v.thread i { current := some i }))
        (Isolate.setGuard (·.settle v.thread)) (fun _ => On (Footing.inside v.thread i 0).Holds)
        E H := by
    apply Triple.update
    intro s hs
    exact ⟨hs.phase, congrArg (Guard.settle · v.thread) hs.guard, hs.isolate, hs.thread, hs.view⟩
  unfold Isolate.enter
  apply On.thread_guard
  have admitted : v.guard.admission v.thread = .gate := by rw [guard]; rfl
  rw [admitted]
  have taken : Triple (At v) (Isolate.setGuard .takeGate)
      (fun _ => On (Stance.IsEntering v.thread i { asked := v.view.asked }))
      (On Footing.outside.Holds) Momentary := by
    apply (On.update (fun v => { v with guard := v.guard.takeGate }) fun _ => rfl).weaken
    exact fun _ _ => On.intro ⟨running, by rw [guard]; rfl, isolate, rfl, view⟩
  apply taken.bind
  intro _
  apply Triple.bind (Triple.onPanic K.activate_entering freed)
  intro r
  cases r with
  | true => exact settled.bind fun _ => Triple.pure fun _ hs => ⟨rfl, hs⟩
  | false => exact freed.bind fun _ => Triple.pure fun _ hs => hs

omit K in
/-- A gate that is taken lets nobody in. -/
theorem enter_gated {v : Stance P} (gate : v.guard = { gateTaken := true }) (pause : v.IsPause) :
    Triple (At v) (Isolate.enter F) (fun _ _ => False) (fun _ => False) Momentary := by
  unfold Isolate.enter
  apply On.thread_guard
  have blocked : v.guard.admission v.thread = .blocked := by
    rw [gate]
    simp [Guard.admission, Guard.heldBy]
  rw [blocked]
  exact Triple.halt fun _ => On.intro pause

omit K in
/-- A thread inside enters again. -/
theorem enter_inside {thread : ThreadId} {i : P.Isolate} {depth : Nat} {E H : State P → Prop} :
    Triple (On (Footing.inside thread i depth).Holds) (Isolate.enter F)
      (fun r => match r with
        | some e => On fun u => e = .nested ∧ u.IsInside thread i (depth + 1)
        | none => fun _ => False)
      E H := by
  apply On.of_at
  intro v hv
  have held : v.guard.admission v.thread = .nested := by
    rw [hv.guard, hv.thread]
    simp [Guard.admission, Guard.heldBy]
  unfold Isolate.enter
  apply On.thread_guard
  rw [held]
  refine Triple.bind (On.update (fun v => { v with guard := v.guard.deepen }) fun _ => rfl)
    fun _ => Triple.pure fun s hs => ?_
  have deeper : Stance.IsInside thread i (depth + 1) { v with guard := v.guard.deepen } :=
    ⟨hv.phase, by rw [hv.guard]; rfl, hv.isolate, hv.thread, hv.view⟩
  exact ⟨rfl, On.intro deeper hs⟩

/-! ### The way out -/

/-- The outer entry is dropped: the isolate is left, and the gate is given back. -/
theorem leave_outer {thread : ThreadId} {i : P.Isolate} {E : State P → Prop} :
    Triple (On (Footing.inside thread i 0).Holds) (Isolate.leave F .outer)
      (fun _ => On Footing.outside.Holds) E Momentary := by
  apply On.of_at
  intro v hv
  have left : (v.grow [.inl .exitIsolate]).view = {} := v.view_cons _
  have pause : (v.grow [.inl .exitIsolate]).IsPause :=
    .of_left (by rw [left]) fun _ => ⟨by simp [hv.guard], .inr (by simp)⟩
  unfold Isolate.leave
  apply On.thread_guard
  rw [if_neg (by simp [hv.guard, hv.thread, Guard.foreignTo])]
  refine Triple.bind (On.call_at (K.exitIsolate _ pause)).of_noPanic fun _ => ?_
  apply (On.update (fun v => { v with guard := v.guard.vacate }) fun _ => rfl).weaken
  intro _ _ hs
  have outside : Footing.outside.Holds
      { v.grow [.inl .exitIsolate] with guard := (v.grow [.inl .exitIsolate]).guard.vacate } := by
    refine ⟨rfl, .inr ⟨?_, .inr ⟨hv.phase, i, hv.isolate⟩⟩⟩
    change (v.grow [.inl .exitIsolate]).view.IsLeft
    rw [left]
    exact ⟨rfl, rfl⟩
  exact On.intro outside hs

omit K in
/-- A nested entry is dropped. -/
theorem leave_nested {thread : ThreadId} {i : P.Isolate} {depth : Nat} {E H : State P → Prop} :
    Triple (On (Footing.inside thread i (depth + 1)).Holds) (Isolate.leave F .nested)
      (fun _ => On (Footing.inside thread i depth).Holds) E H := by
  apply On.of_at
  intro v hv
  unfold Isolate.leave
  apply On.thread_guard
  rw [if_neg (by simp [hv.guard, hv.thread, Guard.foreignTo])]
  apply (On.update (fun v => { v with guard := v.guard.rise }) fun _ => rfl).weaken
  intro _ _ hs
  have risen : Stance.IsInside thread i depth { v with guard := v.guard.rise } :=
    ⟨hv.phase, by rw [hv.guard]; rfl, hv.isolate, hv.thread, hv.view⟩
  exact On.intro risen hs

/-- What keeps every footing inside may be run from any footing while a session runs. -/
theorem within_keeps {x : Entry → Exec P α} (hx : ∀ e, KeepsInside (x e)) {σ : Footing P}
    {v : Stance P} (hv : σ.Holds v) (running : v.phase = .running) :
    Triple (At v) (Isolate.within F x) (fun _ => On σ.Holds) (On σ.Holds) Momentary := by
  unfold Isolate.within
  rcases hv.of_running running with ⟨rfl, guard, left, i, isolate⟩ | ⟨rfl, gate, -⟩ |
    ⟨thread, i, depth, rfl, -⟩
  · refine Triple.bind (K.enter_outside running guard left isolate) fun r => ?_
    cases r with
    | none => exact Triple.pure fun _ h => h
    | some e =>
      refine On.of_and fun outer => ?_
      subst outer
      have left : Triple (On (Footing.inside v.thread i 0).Holds)
          ((x .outer).ensure (Isolate.leave F .outer)) (fun _ => On Footing.outside.Holds)
          (On Footing.outside.Holds) Momentary :=
        Triple.ensure (hx .outer v.thread i 0) (fun _ => K.leave_outer) K.leave_outer
      exact left.bind fun _ => Triple.pure fun _ h => h
  · apply Triple.bind (enter_gated gate hv.isPause).of_noPanic
    exact fun _ _ h => h.elim
  · refine Triple.bind (enter_inside.of_imp fun _ => On.intro hv) fun r => ?_
    cases r with
    | none => exact fun _ h => h.elim
    | some e =>
      refine On.of_and fun nested => ?_
      subst nested
      have left : Triple (On (Footing.inside thread i (depth + 1)).Holds)
          ((x .nested).ensure (Isolate.leave F .nested))
          (fun _ => On (Footing.inside thread i depth).Holds)
          (On (Footing.inside thread i depth).Holds) Momentary :=
        Triple.ensure (hx .nested thread i (depth + 1)) (fun _ => leave_nested) leave_nested
      exact left.bind fun _ => Triple.pure fun _ h => h

theorem tick_keeps : KeepsFooting (Lifecycle.tick F) := by
  intro σ
  refine tick_keeps_of_within (On.of_at_running fun v hv running => ?_)
  exact K.within_keeps (fun _ => K.inScope_inside K.drain_inside) hv running

theorem dispatch_keeps (k : EventKind) (args : Args k.params) :
    KeepsFooting (Dispatch.dispatch F k args) := by
  intro σ
  refine dispatch_keeps_of_within k args (On.of_at_running fun v hv running => ?_)
  exact K.within_keeps (fun _ => K.deliver_inside k args) hv running

end KeepsFootings
end HostBridge
