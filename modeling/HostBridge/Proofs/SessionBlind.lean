import HostBridge.Proofs.SessionContract

/-!
Invariants that look aside from the session. What they say has to do neither with the phase, the
isolate and the guard nor with the calls into the VM, so every operation of the session keeps them.
-/
namespace HostBridge

open Exec

variable {P : Platform} {α : Type}

/-- An invariant that the guard has no part in, nor the calls into a VM once it was started. -/
structure GuardBlind (F : Foreign P (Exec P)) (I H : State P → Prop) : Prop
    extends StartedCalls F I H where
  guard : ∀ {s} (g : Guard), I s → I { s with bridge := { s.bridge with guard := g } }

/-- An invariant that a session has no part in but for its end, and that the code of the VM and the
handlers keep. -/
structure UseBlind (F : Foreign P (Exec P)) (I H : State P → Prop) : Prop
    extends SessionCalls F I H where
  session : ∀ {s} (p : Phase) (i : Option P.Isolate) (g : Guard) (u : Option String), I s →
    I { s with bridge := { s.bridge with phase := p, isolate := i, guard := g, serviceUrl := u } }

/-- An invariant that the session has no part in, and that the code of the VM and the handlers
keep. -/
structure SessionBlind (F : Foreign P (Exec P)) (I H : State P → Prop) : Prop
    extends SessionCode F I H, UseBlind F I H

theorem UseBlind.guardBlind {F : Foreign P (Exec P)} {I H : State P → Prop} (B : UseBlind F I H) :
    GuardBlind F I H where
  toStartedCalls := B.toStartedCalls
  guard g h := B.session _ _ g _ h

namespace VmCalls

variable {F : Foreign P (Exec P)} {given : P.Isolate → Prop} {I H : State P → Prop}
  (C : VmCalls F given I H)
  (guard : ∀ {s} (g : Guard), I s → I { s with bridge := { s.bridge with guard := g } })
include guard

omit C in
theorem setGuard (f : Guard → Guard) : Keeps I H (Isolate.setGuard f) :=
  Keeps.modify fun s => guard (f s.bridge.guard)

include C

theorem enter_keeps : Keeps I H (Isolate.enter F) := by
  unfold Isolate.enter
  refine Keeps.gets.bind fun me => Keeps.bridge.bind fun g => ?_
  split
  · exact (setGuard guard _).bind fun _ => Keeps.pure
  · exact Keeps.halt C.halts
  · refine (setGuard guard _).bind fun _ => ?_
    refine (C.activate_keeps.onPanic (setGuard guard _)).bind fun r => ?_
    split
    · exact (setGuard guard _).bind fun _ => Keeps.pure
    · exact (setGuard guard _).bind fun _ => Keeps.pure

theorem leave_keeps (e : Entry) : Keeps I H (Isolate.leave F e) := by
  have drop : Keeps I H (do
      F.vm.callExitIsolate
      Isolate.setGuard .vacate : Exec P Unit) :=
    C.exitIsolate.bind fun _ => setGuard guard _
  unfold Isolate.leave
  refine Keeps.gets.bind fun me => Keeps.bridge.bind fun g => ?_
  cases e with
  | nested =>
    dsimp only
    split
    · exact (C.sendReport _).bind fun _ => setGuard guard _
    · exact setGuard guard _
  | outer =>
    dsimp only
    split
    · exact (C.sendReport _).bind fun _ => drop
    · exact drop

theorem within_keeps {x : Entry → Exec P α} (hx : ∀ e, Keeps I H (x e)) :
    Keeps I H (Isolate.within F x) := by
  unfold Isolate.within
  refine (C.enter_keeps guard).bind fun r => ?_
  cases r with
  | none => exact Keeps.pure
  | some e => exact ((hx e).ensure (C.leave_keeps guard e)).bind fun _ => Keeps.pure

theorem exclusively_keeps {x : Exec P α} (hx : Keeps I H x) :
    Keeps I H (Isolate.exclusively x) := by
  unfold Isolate.exclusively
  refine Keeps.gets.bind fun me => Keeps.bridge.bind fun g => ?_
  split
  · exact hx
  · split
    · exact Keeps.halt C.halts
    · exact (setGuard guard _).bind fun _ => hx.ensure (setGuard guard _)

end VmCalls

/-- Invariants that look aside from the guard have the same one in force inside. -/
theorem BurstUse.ofBlind {F : Foreign P (Exec P)} {ι : Type} {I : ι → State P → Prop}
    {H : State P → Prop} (B : ∀ i, GuardBlind F (I i) H) : BurstUse F I H where
  calls i := (B i).toStartedCalls
  within i _ _ hx := (B i).vmCalls.within_keeps (B i).guard fun e => hx i e

theorem SessionUse.ofBlind {F : Foreign P (Exec P)} {ι : Type} {I : ι → State P → Prop}
    {H : State P → Prop} (B : ∀ i, UseBlind F (I i) H) : SessionUse F I H where
  toBurstUse := .ofBlind fun i => (B i).guardBlind
  callStart i _ config h := (B i).callStart config h
  session i _ p isolate u h := (B i).session p isolate _ u h

/-- An invariant that a session has no part in, nor the handlers, the sink and the environment, has
but the operations on members left. -/
theorem InterfaceContract.ofBlind {F : Foreign P (Exec P)} {I H : State P → Prop}
    (blind : UseBlind F I H)
    (bridge : ∀ {s} (r : Handlers P.Handler) (c : Option (ChatSink P.Sink)), I s →
      I { s with bridge := { s.bridge with handlers := r, chatSink := c } })
    (environment : ∀ {s} (e : Config.Environment), I s → I { s with environment := e })
    (sink : ∀ s player text, Keeps I H (F.callSink s player text))
    (about : ∀ {β : Type} (o : Op P β), o.key?.isSome = true → Keeps I H (o.run F)) :
    InterfaceContract F I H :=
  have session : SessionUse F (fun _ : Unit => I) H := .ofBlind fun _ => blind
  { toDetached := blind.toDetached
    handlers := fun r => bridge r _
    chatSink := fun c => bridge _ c
    environment := environment
    handler := blind.handler
    sink := sink
    about := about
    launch := session.launch_keeps ()
    launchWith := session.launchWith_keeps ()
    tick := session.tick_keeps ()
    dispatch := session.dispatch_keeps () }

/-- Invariants that look aside from the guard have the same one in force on both sides of it. -/
theorem SessionContract.ofUseBlind {F : Foreign P (Exec P)} {ι : Type} {I : ι → State P → Prop}
    {H : State P → Prop} (B : ∀ i, UseBlind F (I i) H)
    (clear : ∀ i, Keeps (I i) H (Lifecycle.clear F)) : SessionContract F I H where
  toSessionUse := .ofBlind B
  clear := clear
  exclusively i _ _ hx :=
    (B i).toStartedCalls.vmCalls.exclusively_keeps (B i).guardBlind.guard (hx i)

theorem SessionContract.ofBlind {F : Foreign P (Exec P)} {ι : Type} {I : ι → State P → Prop}
    {H : State P → Prop} (B : ∀ i, SessionBlind F (I i) H) : SessionContract F I H :=
  .ofUseBlind (fun i => (B i).toUseBlind) fun i => (B i).toSessionCode.clear_keeps

end HostBridge
