import HostBridge.Proofs.SessionContract

/-!
The guard between calls. Whatever foreign code does, each way through the guard leads back: as long
as the gate is free, nothing is on record but what a new guard has. While the gate is taken without
an entry, as at the end of a session, nothing gets through; while it is taken by an entry, what
happens inside does not give it back.
-/
namespace HostBridge

open Exec

variable {P : Platform} {α : Type}

/-- What is certain of a guard: that it is new as soon as its gate is free, that its gate is taken
and nobody is inside, or that its gate is taken. -/
inductive GateState where
  | settled
  | shut
  | taken

namespace GateState

def Holds : GateState → Guard → Prop
  | settled, g => g.gateTaken = false → g = {}
  | shut, g => g = { gateTaken := true }
  | taken, g => g.gateTaken = true

/-- States whose guard is in a certain state. -/
def On (i : GateState) (s : State P) : Prop := i.Holds s.bridge.guard

/-- States whose guard is new as soon as its gate is free. -/
abbrev Settled : State P → Prop := settled.On

variable {s : State P}

theorem On.settled {i : GateState} (h : i.On s) : Settled s := by
  cases i with
  | settled => exact h
  | shut =>
    intro free
    rw [show s.bridge.guard = _ from h] at free
    cases free
  | taken =>
    intro free
    rw [show s.bridge.guard.gateTaken = true from h] at free
    cases free

theorem On.new (h : Settled s) (free : s.bridge.guard.gateTaken = false) : s.bridge.guard = {} :=
  h free

/-- Who is inside has the gate. -/
theorem On.taken_of_held {i : GateState} (h : i.On s) {me : ThreadId}
    (held : s.bridge.guard.heldBy me = true) : taken.On s := by
  by_cases free : s.bridge.guard.gateTaken = false
  · rw [h.settled.new free] at held
    simp [Guard.heldBy] at held
  · simpa [On, Holds] using free

theorem On.taken_of_shut (h : shut.On s) : taken.On s := congrArg Guard.gateTaken h

theorem On.ne_free (h : taken.On s) {g : Guard} (read : g = s.bridge.guard) :
    g.gateTaken ≠ false := by
  rw [read, show s.bridge.guard.gateTaken = true from h]
  nofun

theorem held_of_admission {g : Guard} {me : ThreadId} (h : g.admission me = .nested) :
    g.heldBy me = true := by
  unfold Guard.admission at h
  split at h
  · assumption
  · split at h <;> cases h

theorem free_of_admission {g : Guard} {me : ThreadId} (h : g.admission me = .gate) :
    g.gateTaken = false := by
  unfold Guard.admission at h
  split at h
  · cases h
  · split at h
    · cases h
    · simp_all

/-! ### Through the guard -/

section
variable {F : Foreign P (Exec P)} (C : ∀ i : GateState, SessionCode F i.On Settled)

theorem setGuard_from {i j : GateState} {E H : State P → Prop} (f : Guard → Guard)
    (h : ∀ g, i.Holds g → j.Holds (f g)) :
    Triple i.On (Isolate.setGuard f) (fun _ => j.On) E H :=
  Triple.update fun s hs => h s.bridge.guard hs

theorem freeGate_keeps : Triple (shut.On (P := P)) (Isolate.setGuard .freeGate)
    (fun _ => Settled) Settled Settled :=
  setGuard_from (i := .shut) (j := .settled) _ fun g hg _ => by rw [show g = _ from hg]; rfl

/-- Whoever gets to the gate finds a new guard, and closes it. -/
theorem takeGate_from {g : Guard} (free : g.gateTaken = false) {E H : State P → Prop} :
    Triple (fun s => g = s.bridge.guard ∧ Settled s) (Isolate.setGuard .takeGate)
      (fun _ => shut.On) E H := by
  refine Triple.update fun s h => ?_
  obtain ⟨rfl, settled⟩ := h
  change s.bridge.guard.takeGate = _
  rw [settled.new free]
  rfl

include C

theorem enter_settled : Triple (Settled (P := P)) (Isolate.enter F)
    (fun r => match r with
      | some _ => taken.On
      | none => Settled) Settled Settled := by
  unfold Isolate.enter
  refine Triple.bind Keeps.gets fun me => Triple.bind Triple.asks fun g => ?_
  cases ha : g.admission me with
  | nested =>
    have deeper : Triple (fun s => g = s.bridge.guard ∧ Settled s)
        (Isolate.setGuard .deepen : Exec P Unit) (fun _ => taken.On) Settled Settled := by
      refine Triple.update fun s h => ?_
      obtain ⟨rfl, settled⟩ := h
      exact settled.taken_of_held (held_of_admission ha)
    exact Triple.bind deeper fun _ => Triple.pure fun _ h => h
  | blocked => exact Triple.halt fun _ h => h.2
  | gate =>
    refine Triple.bind (takeGate_from (free_of_admission ha)) fun _ => ?_
    refine Triple.bind (Triple.onPanic (C .shut).vmCalls.activate_keeps freeGate_keeps) fun r => ?_
    cases r with
    | true =>
      refine Triple.bind (setGuard_from (j := .taken) (·.settle me) fun g hg => ?_) fun _ =>
        Triple.pure fun _ h => h
      rw [show g = _ from hg]
      rfl
    | false => exact Triple.bind freeGate_keeps fun _ => Triple.pure fun _ h => h

omit C in
/-- Inside, an entry is nested. -/
theorem enter_taken : Triple (taken.On (P := P)) (Isolate.enter F)
    (fun r s => r = some .nested ∧ taken.On s) taken.On Settled := by
  unfold Isolate.enter
  refine Triple.bind Keeps.gets fun me => Triple.bind Triple.asks fun g => ?_
  cases ha : g.admission me with
  | nested =>
    have deeper : Triple (fun s => g = s.bridge.guard ∧ taken.On s)
        (Isolate.setGuard .deepen : Exec P Unit) (fun _ => taken.On) taken.On Settled :=
      Triple.update fun s h => h.2
    exact Triple.bind deeper fun _ => Triple.pure fun _ h => ⟨rfl, h⟩
  | blocked => exact Triple.halt fun _ h => h.2.settled
  | gate => exact fun s h => (h.2.ne_free h.1 (free_of_admission ha)).elim

omit C in
/-- A gate that is shut lets nobody in. -/
theorem enter_shut : Triple (shut.On (P := P)) (Isolate.enter F) (fun _ _ => False)
    (fun _ => False) Settled := by
  unfold Isolate.enter
  refine Triple.of_pre fun s h => ?_
  have blocked : s.bridge.guard.admission s.thread = .blocked := by
    rw [show s.bridge.guard = _ from h]
    simp [Guard.admission, Guard.heldBy]
  intro t ht
  rw [ht, Exec.run_bind, Exec.run_gets]
  simp only [Exec.bridge, Exec.run_bind, Exec.run_gets, blocked, Exec.run_halt]
  exact h.settled

omit C in
theorem rise_keeps {E H : State P → Prop} :
    Triple (taken.On (P := P)) (Isolate.setGuard .rise) (fun _ => taken.On) E H :=
  setGuard_from (i := .taken) (j := .taken) _ fun _ h => h

theorem leave_nested : Keeps taken.On Settled (Isolate.leave F .nested) := by
  unfold Isolate.leave
  refine Keeps.gets.bind fun me => Keeps.bridge.bind fun g => ?_
  dsimp only
  split
  · exact ((C .taken).sendReport _).bind fun _ => rise_keeps
  · exact rise_keeps

/-- Dropping any entry from inside comes out at a settled guard: an outer entry leaves a new one. -/
theorem leave_taken (e : Entry) :
    Triple taken.On (Isolate.leave F e) (fun _ => Settled) Settled Settled := by
  cases e with
  | nested =>
    exact (leave_nested C).conseq (fun _ h => h) (fun _ _ h => h.settled) (fun _ h => h.settled)
      fun _ h => h
  | outer =>
    have drop : Triple taken.On (do
        F.vm.callExitIsolate
        Isolate.setGuard .vacate : Exec P Unit) (fun _ => Settled) taken.On Settled :=
      Triple.bind ((C .taken).call (C .taken).exitIsolate) fun _ =>
        setGuard_from (i := .taken) (j := .settled) _ fun _ _ _ => rfl
    have left : Triple taken.On (Isolate.leave F .outer) (fun _ => Settled) taken.On Settled := by
      unfold Isolate.leave
      refine Triple.bind Keeps.gets fun me => Triple.bind Keeps.bridge fun g => ?_
      dsimp only
      split
      · exact Triple.bind ((C .taken).sendReport _) fun _ => drop
      · exact drop
    exact left.conseq (fun _ h => h) (fun _ _ h => h) (fun _ h => h.settled) fun _ h => h

theorem within_keeps (i : GateState) {x : Entry → Exec P α}
    (hx : ∀ j e, Keeps (On j) Settled (x e)) : Keeps i.On Settled (Isolate.within F x) := by
  unfold Isolate.within
  cases i with
  | settled =>
    refine Triple.bind (enter_settled C) fun r => ?_
    cases r with
    | none => exact Triple.pure fun _ h => h
    | some e =>
      have inside : Triple taken.On ((x e).ensure (Isolate.leave F e)) (fun _ => Settled) Settled
          Settled :=
        Triple.ensure (hx .taken e) (fun _ => leave_taken C e) (leave_taken C e)
      exact Triple.bind inside fun _ => Triple.pure fun _ h => h
  | taken =>
    refine Triple.bind (enter_taken) fun r => Triple.of_and fun hr => ?_
    subst hr
    exact Keeps.bind ((hx .taken .nested).ensure (leave_nested C)) fun _ => Keeps.pure
  | shut =>
    refine Triple.bind enter_shut.of_noPanic fun r => ?_
    exact fun _ h => h.elim

omit C in
theorem exclusively_keeps (i : GateState) {x : Exec P α} (hx : ∀ j, Keeps (On j) Settled x) :
    Keeps i.On Settled (Isolate.exclusively x) := by
  unfold Isolate.exclusively
  refine Keeps.gets.bind fun me => Triple.bind Triple.asks fun g => ?_
  by_cases held : g.heldBy me = true
  · rw [if_pos held]
    exact Triple.of_imp (hx i) fun _ h => h.2
  rw [if_neg held]
  by_cases closed : g.gateTaken = true
  · rw [if_pos closed]
    exact Triple.halt fun _ h => h.2.settled
  rw [if_neg closed]
  have free : g.gateTaken = false := by simpa using closed
  cases i with
  | settled =>
    refine Triple.bind (takeGate_from free) fun _ => ?_
    exact Triple.ensure (hx .shut) (fun _ => freeGate_keeps) freeGate_keeps
  | shut => exact fun s h => (h.2.taken_of_shut.ne_free h.1 free).elim
  | taken => exact fun s h => (h.2.ne_free h.1 free).elim

end
end GateState

/-- The states of the gate withstand the session. -/
theorem SessionContract.ofGateStates {F : Foreign P (Exec P)}
    (C : ∀ i : GateState, SessionCode F i.On GateState.Settled) :
    SessionContract F GateState.On GateState.Settled where
  clear i := (C i).clear_keeps
  calls i := (C i).toStartedCalls
  callStart i _ config h := (C i).callStart config h
  session _ _ _ _ _ h := h
  within i _ _ := GateState.within_keeps C i
  exclusively i _ _ := GateState.exclusively_keeps i

/-! ### Programs -/

namespace GateState

theorem inert (i : GateState) : Inert (P := P) i.On Settled where
  handles _ h := h
  memory _ h := h
  sides _ _ h := h
  report _ h := h
  halts _ h := h.settled

variable {F : Foreign P (Act P)} {limit : Nat}

section
variable (run : ∀ {β : Type} (b : Act P β) (i : GateState),
  Keeps i.On Settled ((System.ofPrograms F).exec limit b))
include run

theorem code (i : GateState) : SessionCode ((System.ofPrograms F).foreign limit) i.On Settled where
  toInert := i.inert
  __ := System.startedCalls_ofPrograms i.inert.toDetached (fun _ _ h => h) (fun _ h => h)
    (fun _ _ _ h => h) fun b => run b i
  callStart _ h := h
  handlers _ h := h
  cleared h := h

theorem unaware (i : GateState) : Unaware ((System.ofPrograms F).foreign limit) i.On Settled :=
  System.unaware_ofPrograms i.inert (fun _ h => h) (fun _ h => h) fun b => run b i

def contract : ProgramContract ((System.ofPrograms F).foreign limit) (On (P := P)) Settled :=
  .ofPrograms (.ofUnaware (unaware run)) (fun _ => ⟨fun _ _ _ _ h => h, fun _ _ h => h⟩)
    (SessionContract.ofGateStates (code run)).kept (fun i => (code run i).clearMembers_keeps) run

end

/-- Every program keeps the state of the gate. -/
theorem exec_keeps (F : Foreign P (Act P)) (limit : Nat) (a : Act P α) (i : GateState) :
    Keeps i.On Settled ((System.ofPrograms F).exec limit a) :=
  System.exec_keeps (I := On) (fun _ _ h => h.settled) (fun _ run => contract run) limit a i

/-- The guard of a bridge stays new whenever its gate is free, at the end of programs and, when one
does not come back, at the point where it stays. -/
theorem runTurns_settled_from (F : Foreign P (Act P)) (limit : Nat)
    (turns : List (ThreadId × Act P Unit)) {s : State P} (settled : Settled s) :
    Settled ((System.ofPrograms F).runTurns limit turns s) :=
  System.runTurns_keeps (I := Settled) (fun _ h => h) (fun _ _ h => h)
    (fun a => exec_keeps F limit a .settled) turns settled

theorem runTurns_settled (F : Foreign P (Act P)) (limit : Nat)
    (turns : List (ThreadId × Act P Unit)) {s : State P} (new : s.bridge.guard = {}) :
    Settled ((System.ofPrograms F).runTurns limit turns s) :=
  runTurns_settled_from F limit turns fun _ => new

end GateState
end HostBridge
