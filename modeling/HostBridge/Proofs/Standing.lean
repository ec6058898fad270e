import HostBridge.Proofs.Stance

/-!
Standings of a bridge. Code of the program of a VM runs in one of three: outside of everything, at
its start, or inside the isolate. Each says what the session, the guard and the calls so far are.
-/
namespace HostBridge

open Exec VmEvent

variable {P : Platform} {α : Type}

/-- Where a bridge stands when foreign code runs. Inside, the calls up to the last scope or drain
that is open are the base. -/
inductive Standing (P : Platform) where
  | calm
  | starting (v : Stance P)
  | inside (thread : ThreadId) (i : P.Isolate) (depth : Nat) (isOpen : Bool)
    (base : List (VmEvent P))

namespace Standing

/-- The stance of a thread inside an isolate, with `depth` entries nested in the outer one. -/
def within (thread : ThreadId) (i : P.Isolate) (depth : Nat) (trace : List (VmEvent P)) :
    Stance P :=
  ⟨.running, ⟨true, some thread, depth + 1⟩, some i, thread, trace⟩

/-- The stances of a standing. -/
def Holds : Standing P → Stance P → Prop
  | calm, v => v.guard = {} ∧
    ((v.phase = .uninitialized ∧ AreSessions v.trace) ∨
      (v.phase = .running ∧ ∃ i, v.isolate = some i ∧ AwaitsBurst i v.trace))
  | starting u, v => (u.phase = .initializing ∧ u.guard = {} ∧ IsLawful u.trace) ∧ v = u
  | inside thread i depth isOpen base, v =>
    ∃ inner, (IsInside isOpen base ∧ Nested isOpen inner) ∧
      v = within thread i depth (base ++ inner)

theorem Holds.isLawful {σ : Standing P} {v : Stance P} (h : σ.Holds v) : IsLawful v.trace := by
  cases σ with
  | calm =>
    obtain ⟨-, ⟨-, h⟩ | ⟨-, i, -, h⟩⟩ := h
    · exact h.isLawful
    · exact h.isLawful
  | starting u =>
    obtain ⟨⟨-, -, h⟩, rfl⟩ := h
    exact h
  | inside thread i depth isOpen base =>
    obtain ⟨inner, ⟨hbase, hinner⟩, rfl⟩ := h
    exact hbase inner hinner

/-- Before a session the standing is calm. -/
theorem Holds.of_uninitialized {σ : Standing P} {v : Stance P} (h : σ.Holds v)
    (fresh : v.phase = .uninitialized) : σ = calm ∧ v.guard = {} ∧ AreSessions v.trace := by
  cases σ with
  | calm =>
    obtain ⟨guard, ⟨-, before⟩ | ⟨running, -⟩⟩ := h
    · exact ⟨rfl, guard, before⟩
    · rw [fresh] at running
      cases running
  | starting u =>
    obtain ⟨⟨starting, -, -⟩, rfl⟩ := h
    rw [fresh] at starting
    cases starting
  | inside thread i depth isOpen base =>
    obtain ⟨inner, -, rfl⟩ := h
    cases fresh

/-- While a session runs and its isolate is not held, the standing is calm. -/
theorem Holds.of_free {σ : Standing P} {v : Stance P} (h : σ.Holds v)
    (running : v.phase = .running) (free : v.guard.heldBy v.thread = false) :
    σ = calm ∧ v.guard = {} ∧ ∃ i, v.isolate = some i ∧ AwaitsBurst i v.trace := by
  cases σ with
  | calm =>
    obtain ⟨guard, ⟨fresh, -⟩ | ⟨-, awaits⟩⟩ := h
    · rw [running] at fresh
      cases fresh
    · exact ⟨rfl, guard, awaits⟩
  | starting u =>
    obtain ⟨⟨starting, -, -⟩, rfl⟩ := h
    rw [running] at starting
    cases starting
  | inside thread i depth isOpen base =>
    obtain ⟨inner, -, rfl⟩ := h
    simp [Standing.within, Guard.heldBy] at free

/-- Who holds the isolate is inside. -/
theorem Holds.of_held {σ : Standing P} {v : Stance P} (h : σ.Holds v)
    (held : v.guard.heldBy v.thread = true) :
    ∃ thread i depth isOpen base, σ = inside thread i depth isOpen base := by
  cases σ with
  | calm =>
    obtain ⟨guard, -⟩ := h
    rw [guard] at held
    simp [Guard.heldBy] at held
  | starting u =>
    obtain ⟨⟨-, guard, -⟩, rfl⟩ := h
    rw [guard] at held
    simp [Guard.heldBy] at held
  | inside thread i depth isOpen base => exact ⟨thread, i, depth, isOpen, base, rfl⟩

end Standing

/-! ### What the VM has to keep to -/

/-- Leaves every stance as it is, and comes back. -/
def IsIdle (x : Exec P α) : Prop :=
  ∀ v, IsLawful v.trace → Triple (At v) x (fun _ => At v) (fun _ => False) Lawful

/-- Leaves every standing inside the isolate as it is, and comes back. The flag says whether a
scope is open. -/
def StaysInside (isOpen : Bool) (x : Exec P α) : Prop :=
  ∀ thread i depth base, Triple (On (Standing.inside thread i depth isOpen base).Holds) x
    (fun _ => On (Standing.inside thread i depth isOpen base).Holds) (fun _ => False) Lawful

/-- Foreign code that respects the standings: its VM comes back from every call, and nothing but
entry points and drains runs code of the program. -/
structure RespectsStandings (F : Foreign P (Exec P)) : Prop where
  start : ∀ config, IsIdle (F.vm.start config)
  loadImage : ∀ image, IsIdle (F.vm.loadImage image)
  enterIsolate : ∀ i, IsIdle (F.vm.enterIsolate i)
  exitIsolate : IsIdle F.vm.exitIsolate
  enterScope : IsIdle F.vm.enterScope
  exitScope : IsIdle F.vm.exitScope
  shutdownIsolate : ∀ i, IsIdle (F.vm.shutdownIsolate i)
  stop : IsIdle F.vm.stop
  entryPoint : ∀ name (σ : Standing P), Triple (On σ.Holds) (F.vm.entryPoint name)
    (fun _ => On σ.Holds) (fun _ => False) Lawful
  drain : ∀ σ : Standing P, Triple (On σ.Holds) F.vm.drain (fun _ => On σ.Holds) (fun _ => False)
    Lawful
  handler : ∀ handler k args (σ : Standing P),
    Keeps (On σ.Holds) Lawful (F.handler handler k args)

end HostBridge
