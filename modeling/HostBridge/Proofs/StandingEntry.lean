import HostBridge.Proofs.SessionContract
import HostBridge.Proofs.Standing

/-!
Entries into the isolate from any standing. Ticks and events open scopes that they close again,
though the handlers panic and the microtasks enter again.
-/
namespace HostBridge

open Exec VmEvent

variable {P : Platform} {α : Type}

namespace RespectsStandings

variable {F : Foreign P (Exec P)} (R : RespectsStandings F) {v : Stance P}
include R

/-! ### Inside -/

/-- A scope around what stays inside a scope. -/
theorem inScope_stays {isOpen : Bool} {x : Exec P α} (hx : StaysInside true x) :
    StaysInside isOpen (Isolate.inScope F x) := by
  intro thread i depth base
  refine On.of_exists fun inner => On.of_and fun ⟨hbase, hinner⟩ => ?_
  have opened := hbase.enterScope hinner
  unfold Isolate.inScope
  refine Triple.bind (On.call_at (R.enterScope _ opened.isLawful)) fun _ => ?_
  refine Triple.bind ((hx thread i depth (base ++ inner ++ [.inl .enterScope])).conseq
    (fun s hs => ⟨[], ⟨opened, .nil⟩, by rw [List.append_nil]; exact hs⟩) (fun _ _ h => h)
    (fun _ h => h) fun _ h => h) fun a => ?_
  refine On.of_exists fun inner' => On.of_and fun ⟨_, hinner'⟩ => ?_
  have closed := hinner.append_scope hinner'
  refine Triple.bind (On.call_at (R.exitScope _ ?_)) fun _ => Triple.pure fun _ => On.intro ?_
  · simpa [Standing.within] using hbase _ closed
  · exact ⟨_, ⟨hbase, closed⟩, by simp [Standing.within, Stance.grow]⟩

theorem drain_stays : StaysInside true (Isolate.drain F) := by
  intro thread i depth base
  refine On.of_exists fun inner => On.of_and fun ⟨hbase, hinner⟩ => ?_
  have opened := hbase.drain hinner
  unfold Isolate.drain
  have drained : Triple (At (Standing.within thread i depth (base ++ inner))) F.vm.callDrain
      (fun _ => On (Standing.inside thread i depth true base).Holds) (fun _ => False) Lawful := by
    refine On.tryCall ?_ (R.drain (.inside thread i depth true (base ++ inner ++ [.inl .drain])))
      ?_ ?_
    · rintro _ rfl
      exact ⟨[], ⟨opened, .nil⟩, by rw [List.append_nil]; rfl⟩
    · rintro _ _ ⟨inner', ⟨_, hinner'⟩, rfl⟩
      exact ⟨_, ⟨hbase, hinner.append_drain hinner' (.ok ())⟩,
        by simp [Standing.within, Stance.grow, returned]⟩
    · rintro e _ ⟨inner', ⟨_, hinner'⟩, rfl⟩
      exact ⟨_, ⟨hbase, hinner.append_drain hinner' (.error e)⟩,
        by simp [Standing.within, Stance.grow, returned]⟩
  refine Triple.bind drained fun r => ?_
  cases r with
  | ok _ => exact Triple.pure fun _ h => h
  | error e => exact On.report

/-- Code of the program runs in a scope of its own, and its panic ends there. -/
theorem deliver_stays {isOpen : Bool} (k : EventKind) (args : Args k.params) :
    StaysInside isOpen (Dispatch.deliver F k args) := by
  have handled : StaysInside true (do
      let r ← (Dispatch.callHandler F k args).attempt
      if k.drainsMicrotasks then Isolate.drain F
      return r) := by
    intro thread i depth base
    have answered : Keeps (On (Standing.inside thread i depth true base).Holds) Lawful
        (Dispatch.callHandler F k args) := by
      unfold Dispatch.callHandler
      refine Keeps.bridge.bind fun handlers => ?_
      split
      · exact (Keeps.modify fun _ => On.recordOther rfl).bind fun _ => R.handler _ k args _
      · exact Keeps.pure
    have settled : Triple (On (Standing.inside thread i depth true base).Holds)
        (Dispatch.callHandler F k args).attempt
        (fun _ => On (Standing.inside thread i depth true base).Holds) (fun _ => False) Lawful :=
      (Triple.attempt answered).weaken fun r _ h => by cases r <;> exact h
    refine settled.bind fun r => ?_
    split
    · exact (R.drain_stays thread i depth base).bind fun _ => Triple.pure fun _ h => h
    · exact Triple.pure fun _ h => h
  intro thread i depth base
  unfold Dispatch.deliver
  refine Triple.bind (R.inScope_stays handled thread i depth base) fun r => ?_
  cases r with
  | ok x => exact Triple.pure fun _ h => h
  | error m => exact Triple.bind On.report fun _ => Triple.pure fun _ h => h

/-! ### Entry -/

/-- The switch makes the isolate current, or the VM refuses. -/
theorem activate_at {i : P.Isolate} (isolate : v.isolate = some i)
    (lawful : IsLawful (v.trace ++ [.inl (.enterIsolate i)])) :
    Triple (At v) (Isolate.activate F)
      (fun r => match r with
        | true => At (v.grow [.inl (.enterIsolate i), .inr .done])
        | false => On fun u => ∃ e, u = v.grow [.inl (.enterIsolate i), .inr (.failed e)])
      (fun _ => False) Lawful := by
  unfold Isolate.activate
  refine Triple.bind (On.reads Stance.isolate fun _ => rfl) fun found => Triple.of_and ?_
  rintro rfl
  rw [isolate]
  refine Triple.bind (On.tryCall_at (R.enterIsolate i _ lawful)) fun r => ?_
  cases r with
  | ok _ => exact Triple.pure fun _ h => h
  | error e => exact Triple.bind On.report fun _ => Triple.pure fun _ hs => ⟨e, hs⟩

/-- The first entry of a thread takes the gate and makes the isolate current. -/
theorem enter_free {i : P.Isolate} (running : v.phase = .running) (guard : v.guard = {})
    (isolate : v.isolate = some i) (awaits : AwaitsBurst i v.trace) :
    Triple (At v) (Isolate.enter F)
      (fun r => match r with
        | some e => On fun u => e = .outer ∧ u = Standing.within v.thread i 0
          (v.trace ++ [.inl (.enterIsolate i), .inr .done])
        | none => On Standing.calm.Holds)
      (fun _ => False) Lawful := by
  unfold Isolate.enter
  apply On.thread_guard
  have free : v.guard.admission v.thread = .gate := by rw [guard]; rfl
  rw [free]
  let u : Stance P := { v with guard := v.guard.takeGate }
  have activated : Triple (At u) ((Isolate.activate F).onPanic (Isolate.setGuard .freeGate))
      (fun r => match r with
        | true => At (u.grow [.inl (.enterIsolate i), .inr .done])
        | false => On fun w => ∃ e, w = u.grow [.inl (.enterIsolate i), .inr (.failed e)])
      (fun _ => False) Lawful :=
    (R.activate_at (v := u) isolate
      (awaits.isLawful_append (.refused .startFailed) ⟨_, rfl⟩)).onPanic
      fun _ h => h.elim
  refine Triple.bind (On.update (fun v => { v with guard := v.guard.takeGate }) fun _ => rfl)
    fun _ => Triple.bind activated fun r => ?_
  cases r with
  | true =>
    refine Triple.bind (On.update (fun w => { w with guard := w.guard.settle v.thread })
      fun _ => rfl) fun _ => Triple.pure fun _ hs => ⟨rfl, hs.trans ?_⟩
    simp [u, Standing.within, Stance.grow, guard, running, isolate, Guard.takeGate, Guard.settle]
  | false =>
    refine On.of_exists fun e => Triple.bind
      (On.update (fun v => { v with guard := v.guard.freeGate }) fun _ => rfl) fun _ =>
        Triple.pure fun _ => On.intro ?_
    have refused := awaits.append_burst (.refused e)
    exact ⟨by simp [u, guard, Guard.takeGate, Guard.freeGate], .inr ⟨running, i, isolate, refused⟩⟩

/-- The outer entry is dropped: the isolate is left and the gate given back. -/
theorem leave_outer {thread : ThreadId} {i : P.Isolate} {l : List (VmEvent P)}
    (awaits : AwaitsBurst i l) :
    Triple (On (Standing.inside thread i 0 false
        (l ++ [.inl (.enterIsolate i), .inr .done])).Holds)
      (Isolate.leave F .outer) (fun _ => On Standing.calm.Holds) (fun _ => False) Lawful := by
  refine On.of_exists fun inner => On.of_and fun ⟨_, hinner⟩ => ?_
  have burst := awaits.append_burst (.entered hinner)
  unfold Isolate.leave
  apply On.thread_guard
  rw [if_neg (by simp [Standing.within, Guard.foreignTo])]
  refine Triple.bind (On.call_at (R.exitIsolate _ ?_)) fun _ => ?_
  · simpa [Standing.within] using burst.isLawful
  refine (On.update (fun v => { v with guard := v.guard.vacate }) fun _ => rfl).conseq
    (fun _ h => h) (fun _ _ => On.intro ⟨rfl, .inr ⟨rfl, i, rfl, ?_⟩⟩) (fun _ h => h) fun _ h => h
  simpa [Standing.within] using burst

omit R in
/-- A thread inside enters again. -/
theorem enter_nested {thread : ThreadId} {i : P.Isolate} {depth : Nat} {isOpen : Bool}
    {base : List (VmEvent P)} {H : State P → Prop} :
    Triple (On (Standing.inside thread i depth isOpen base).Holds) (Isolate.enter F)
      (fun r => match r with
        | some e => On fun u => e = .nested ∧
          (Standing.inside thread i (depth + 1) isOpen base).Holds u
        | none => fun _ => False)
      (fun _ => False) H := by
  refine On.of_exists fun inner => On.of_and fun nested => ?_
  have held : (Standing.within thread i depth (base ++ inner)).guard.admission
      (Standing.within thread i depth (base ++ inner)).thread = .nested := by
    simp [Standing.within, Guard.admission, Guard.heldBy]
  unfold Isolate.enter
  apply On.thread_guard
  rw [held]
  refine Triple.bind (On.update (fun v => { v with guard := v.guard.deepen }) fun _ => rfl)
    fun _ => Triple.pure fun _ hs => ⟨rfl, inner, nested, hs⟩

omit R in
/-- A nested entry is dropped. -/
theorem leave_nested {thread : ThreadId} {i : P.Isolate} {depth : Nat} {isOpen : Bool}
    {base : List (VmEvent P)} {H : State P → Prop} :
    Triple (On (Standing.inside thread i (depth + 1) isOpen base).Holds) (Isolate.leave F .nested)
      (fun _ => On (Standing.inside thread i depth isOpen base).Holds) (fun _ => False) H := by
  refine On.of_exists fun inner => On.of_and fun nested => ?_
  unfold Isolate.leave
  apply On.thread_guard
  rw [if_neg (by simp [Standing.within, Guard.foreignTo])]
  exact (On.update (fun v => { v with guard := v.guard.rise }) fun _ => rfl).conseq
    (fun _ h => h) (fun _ _ hs => ⟨inner, nested, hs⟩) (fun _ h => h) fun _ h => h

/-- What stays inside may be run from any standing while a session runs. -/
theorem within_keeps {x : Entry → Exec P α} (hx : ∀ e isOpen, StaysInside isOpen (x e))
    {σ : Standing P} (hv : σ.Holds v) (running : v.phase = .running) :
    Triple (At v) (Isolate.within F x) (fun _ => On σ.Holds) (fun _ => False) Lawful := by
  unfold Isolate.within
  by_cases free : v.guard.heldBy v.thread = false
  · obtain ⟨rfl, guard, i, isolate, awaits⟩ := hv.of_free running free
    refine Triple.bind (R.enter_free running guard isolate awaits) fun r => ?_
    cases r with
    | none => exact Triple.pure fun _ h => h
    | some e =>
      refine On.of_and fun outer => ?_
      subst outer
      have body := hx .outer false v.thread i 0 (v.trace ++ [.inl (.enterIsolate i), .inr .done])
      have left : Triple (On (Standing.inside v.thread i 0 false
          (v.trace ++ [.inl (.enterIsolate i), .inr .done])).Holds)
          ((x .outer).ensure (Isolate.leave F .outer)) (fun _ => On Standing.calm.Holds)
          (fun _ => False) Lawful :=
        body.ensure (fun _ => R.leave_outer awaits) fun _ h => h.elim
      refine Triple.bind (left.of_imp fun s hs => ⟨[], ⟨awaits.isInside_enter, .nil⟩, ?_⟩)
        fun _ => Triple.pure fun _ h => h
      rw [List.append_nil]
      exact hs
  · obtain ⟨thread, i, depth, isOpen, base, rfl⟩ := hv.of_held (by simpa using free)
    refine Triple.bind (enter_nested.of_imp fun _ => On.intro hv) fun r => ?_
    cases r with
    | none => exact fun _ h => h.elim
    | some e =>
      refine On.of_and fun nested => ?_
      subst nested
      have left : Triple (On (Standing.inside thread i (depth + 1) isOpen base).Holds)
          ((x .nested).ensure (Isolate.leave F .nested))
          (fun _ => On (Standing.inside thread i depth isOpen base).Holds) (fun _ => False)
          Lawful :=
        (hx .nested isOpen thread i (depth + 1) base).ensure (fun _ => leave_nested)
          fun _ h => h.elim
      exact left.bind fun _ => Triple.pure fun _ h => h

theorem tick_keeps (σ : Standing P) : Keeps (On σ.Holds) Lawful (Lifecycle.tick F) := by
  refine tick_keeps_of_within (On.of_at_running fun v hv running => ?_)
  exact (R.within_keeps (fun _ _ => R.inScope_stays R.drain_stays) hv running).of_noPanic

theorem dispatch_keeps (k : EventKind) (args : Args k.params) (σ : Standing P) :
    Keeps (On σ.Holds) Lawful (Dispatch.dispatch F k args) := by
  refine dispatch_keeps_of_within k args (On.of_at_running fun v hv running => ?_)
  exact (R.within_keeps (fun _ _ => R.deliver_stays k args) hv running).of_noPanic

end RespectsStandings
end HostBridge
