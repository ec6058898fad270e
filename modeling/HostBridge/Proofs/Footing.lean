import HostBridge.Proofs.Stance

/-!
The footings of a bridge. Whatever its VM does, even if it calls the bridge or panics halfway, a
bridge is outside of its isolate, inside of it, or in a stance that nothing changes until a call
into the VM comes back. Each footing says what the VM was told to enter.
-/
namespace HostBridge

open Exec VmEvent

variable {P : Platform} {α : Type}

/-! ### What the VM was told -/

/-- Where the calls into a VM have led: the isolate that it is asked to enter, the one that it
entered and was not told to leave, and whether a program is at its start, that is, nothing was left
or destroyed since an image was loaded. -/
structure VmView (P : Platform) where
  asked : Option P.Isolate := none
  current : Option P.Isolate := none
  starting : Bool := false

namespace VmView

/-- What one more event leads to. -/
def step (w : VmView P) : VmEvent P → VmView P
  | .inl (.enterIsolate i) => { w with asked := some i }
  | .inl .exitIsolate => {}
  | .inl (.shutdownIsolate _) => { w with asked := none, starting := false }
  | .inl _ => { w with asked := none }
  | .inr .done => { w with asked := none, current := w.asked.or w.current }
  | .inr (.loaded _) => { w with asked := none, starting := true }
  | .inr (.failed _) => { w with asked := none }

/-- No isolate is entered, and no program is at its start. -/
def IsLeft (w : VmView P) : Prop := w.current = none ∧ w.starting = false

end VmView

/-- Where a history has led. -/
def VmEvent.view (l : List (VmEvent P)) : VmView P := l.foldl VmView.step {}

/-- Nothing happened since the VM was asked to enter an isolate. -/
theorem VmEvent.getLast_of_asked {l : List (VmEvent P)} {i : P.Isolate}
    (asked : (view l).asked = some i) : l.getLast? = some (.inl (.enterIsolate i)) := by
  rcases List.eq_nil_or_concat l with rfl | ⟨before, e, rfl⟩
  · cases asked
  · rw [List.concat_eq_append, view, List.foldl_append] at asked
    rw [List.concat_eq_append, List.getLast?_concat]
    rcases e with c | r
    · cases c <;> cases asked
      rfl
    · cases r <;> cases asked

namespace Stance

def view (v : Stance P) : VmView P := VmEvent.view v.trace

@[simp] theorem view_nil (v : Stance P) : (v.grow []).view = v.view := by rw [grow_nil]

@[simp] theorem view_cons (v : Stance P) (e : VmEvent P) :
    (v.grow [e]).view = v.view.step e := by
  simp [view, VmEvent.view]

/-- A session is brought up or taken down. An isolate is entered at the start of a program only. -/
def IsBetween (v : Stance P) : Prop :=
  (v.phase = .initializing ∧ v.guard = {} ∧
    (v.view.current ≠ none → v.view.starting = true)) ∨
  (v.phase = .shuttingDown ∧ v.view.current = none)

/-- The last that the VM was told is to enter an isolate, or to leave it. -/
def IsSwitching (v : Stance P) : Prop :=
  (∃ i, v.trace.getLast? = some (.inl (.enterIsolate i))) ∨
    v.trace.getLast? = some (.inl .exitIsolate)

/-- Nothing gets through: a session is brought up or taken down, or the gate is taken by an entry
that the VM has not granted yet. -/
def IsStill (v : Stance P) : Prop :=
  v.IsBetween ∨
  (v.phase = .running ∧ v.guard = { gateTaken := true } ∧ v.view.current = none ∧ v.IsSwitching)

/-- A thread is inside an isolate, with `depth` entries nested in the outer one. -/
structure IsInside (thread : ThreadId) (i : P.Isolate) (depth : Nat) (v : Stance P) : Prop where
  phase : v.phase = .running
  guard : v.guard = ⟨true, some thread, depth + 1⟩
  isolate : v.isolate = some i
  thread : v.thread = thread
  view : v.view = { current := some i }

end Stance

/-! ### Footings -/

/-- Where a bridge stands when foreign code runs. -/
inductive Footing (P : Platform) where
  | outside
  | still (u : Stance P)
  | inside (thread : ThreadId) (i : P.Isolate) (depth : Nat)

namespace Footing

/-- The stances of a footing. Outside, a session that was cut short while it was brought up or taken
down stays as it is. -/
def Holds : Footing P → Stance P → Prop
  | outside, v => v.guard = {} ∧ (v.IsBetween ∨ v.view.IsLeft ∧
      (v.phase = .uninitialized ∨ v.phase = .running ∧ ∃ i, v.isolate = some i))
  | still u, v => u.IsStill ∧ v = u
  | inside thread i depth, v => v.IsInside thread i depth

end Footing

/-- An isolate is entered, or a session runs and nobody is inside. -/
def Stance.IsSettled (v : Stance P) : Prop :=
  v.view.current ≠ none ∨ v.phase = .running ∧ v.guard = {}

/-- What is settled is a footing. -/
def Stance.IsMoment (v : Stance P) : Prop := v.IsSettled → ∃ σ : Footing P, σ.Holds v

/-- A stance in which something may be cut short. A session that runs is settled, unless the VM is
just entering its isolate or leaving it. -/
structure Stance.IsPause (v : Stance P) : Prop where
  isMoment : v.IsMoment
  running : v.phase = .running → v.IsSettled ∨ v.IsSwitching

/-- States in such stances. -/
abbrev Momentary : State P → Prop := On Stance.IsPause

/-- Keeps every footing. -/
abbrev KeepsFooting (x : Exec P α) : Prop := ∀ σ : Footing P, Keeps (On σ.Holds) Momentary x

namespace Stance

variable {v : Stance P}

theorem IsBetween.begun (h : v.IsBetween) : v.phase ≠ .uninitialized := by
  rcases h with ⟨phase, -⟩ | ⟨phase, -⟩ <;> rw [phase] <;> decide

theorem IsBetween.not_running (h : v.IsBetween) : v.phase ≠ .running := by
  rcases h with ⟨phase, -⟩ | ⟨phase, -⟩ <;> rw [phase] <;> decide

/-- What is being changed while nothing is entered is no footing and need not be one. -/
theorem IsPause.of_left (left : v.view.current = none)
    (changing : v.phase = .running → v.guard ≠ {} ∧ v.IsSwitching) : v.IsPause where
  isMoment := by
    rintro (entered | ⟨running, free⟩)
    · exact absurd left entered
    · exact absurd free (changing running).1
  running h := .inr (changing h).2

end Stance

namespace Footing

variable {σ : Footing P} {v : Stance P}

theorem Holds.isPause (h : σ.Holds v) : v.IsPause := by
  refine ⟨fun _ => ⟨σ, h⟩, fun running => ?_⟩
  cases σ with
  | outside => exact .inl (.inr ⟨running, h.1⟩)
  | still u =>
    obtain ⟨between | ⟨-, -, -, switching⟩, rfl⟩ := h
    · exact absurd running between.not_running
    · exact .inr switching
  | inside thread i depth =>
    left
    left
    rw [h.view]
    nofun

/-- A new bridge is outside. -/
theorem outside_of_new {s : State P} (new : s.bridge = {}) (unrecorded : s.record = []) :
    On outside.Holds s := by
  have silent : s.vmHistory = [] := by simp [State.vmHistory, State.history, unrecorded]
  have left : s.stance.view = {} := congrArg view silent
  refine ⟨by simp [State.stance, new], .inr ⟨?_, .inl (by simp [State.stance, new])⟩⟩
  rw [left]
  exact ⟨rfl, rfl⟩

/-- Before a session the footing is outside. -/
theorem Holds.of_uninitialized (h : σ.Holds v) (fresh : v.phase = .uninitialized) :
    σ = outside ∧ v.guard = {} ∧ v.view.IsLeft := by
  cases σ with
  | outside =>
    obtain ⟨guard, between | ⟨left, -⟩⟩ := h
    · exact absurd fresh between.begun
    · exact ⟨rfl, guard, left⟩
  | still u =>
    obtain ⟨between | ⟨running, -⟩, rfl⟩ := h
    · exact absurd fresh between.begun
    · cases fresh.symm.trans running
  | inside thread i depth => cases fresh.symm.trans h.phase

/-- While a session runs, the isolate is free, its gate is taken, or a thread is inside. -/
theorem Holds.of_running (h : σ.Holds v) (running : v.phase = .running) :
    (σ = outside ∧ v.guard = {} ∧ v.view.IsLeft ∧ ∃ i, v.isolate = some i) ∨
      (σ = still v ∧ v.guard = { gateTaken := true } ∧ v.view.current = none) ∨
      ∃ thread i depth, σ = inside thread i depth ∧ v.IsInside thread i depth := by
  cases σ with
  | outside =>
    obtain ⟨guard, between | ⟨left, fresh | ⟨-, isolate⟩⟩⟩ := h
    · exact absurd running between.not_running
    · cases running.symm.trans fresh
    · exact .inl ⟨rfl, guard, left, isolate⟩
  | still u =>
    obtain ⟨between | ⟨-, gate, left, -⟩, rfl⟩ := h
    · exact absurd running between.not_running
    · exact .inr (.inl ⟨rfl, gate, left⟩)
  | inside thread i depth => exact .inr (.inr ⟨thread, i, depth, rfl, h⟩)

end Footing

theorem Stance.IsInside.held {thread : ThreadId} {i : P.Isolate} {depth : Nat} {v : Stance P}
    (h : v.IsInside thread i depth) : v.guard.heldBy v.thread = true := by
  rw [h.guard, h.thread]
  simp [Guard.heldBy]

/-! ### What the VM has to keep to -/

/-- Leaves every stance as it is, and comes back. -/
def LeavesStance (x : Exec P α) : Prop :=
  ∀ v : Stance P, v.IsPause → Triple (At v) x (fun _ => At v) (fun _ => False) Momentary

/-- Foreign code that keeps every footing. An isolate is left without any code of the program. -/
structure KeepsFootings (F : Foreign P (Exec P)) : Prop where
  start : ∀ config, KeepsFooting (F.vm.start config)
  loadImage : ∀ image, KeepsFooting (F.vm.loadImage image)
  enterIsolate : ∀ i, KeepsFooting (F.vm.enterIsolate i)
  exitIsolate : LeavesStance F.vm.exitIsolate
  enterScope : KeepsFooting F.vm.enterScope
  exitScope : KeepsFooting F.vm.exitScope
  entryPoint : ∀ name, KeepsFooting (F.vm.entryPoint name)
  drain : KeepsFooting F.vm.drain
  shutdownIsolate : ∀ i, KeepsFooting (F.vm.shutdownIsolate i)
  stop : KeepsFooting F.vm.stop
  handler : ∀ h k args, KeepsFooting (F.handler h k args)

end HostBridge
