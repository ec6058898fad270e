import HostBridge.Proofs.DealingsContract
import HostBridge.Proofs.FixedLifecycle

/-!
Entries into the isolate of a process. The footings of a bridge hold there, too, as long as the
library leaves an isolate without any code of the program. So while a session runs, the isolate is
free or the thread is inside, and whoever comes with an event gets in.
-/
namespace HostBridge

open Exec VmEvent

variable {P : Platform} {N : Process} {α : Type}

/-! ### Events that get in -/

theorem Lifecycle.isRunning_eq {t : State P} (running : t.bridge.phase = .running) :
    (isRunning : Exec P Bool) t = (.value true, t) := by
  simp [isRunning, phase, Exec.bridge, run_bind, running]

/-- The VM was told to enter the isolate or to leave it, and this is not over. -/
def State.Switching (s : State P) : Prop := s.bridge.guard ≠ {} ∧ s.stance.IsSwitching

/-- Unless the VM is switching, a session that runs is at some footing. -/
theorem Stance.IsPause.footing {t : State P} (pause : t.stance.IsPause)
    (running : t.bridge.phase = .running) (calm : ¬ t.Switching) :
    t.stance.IsSettled ∧ ∃ σ : Footing P, σ.Holds t.stance := by
  have settled : t.stance.IsSettled := by
    rcases pause.running running with settled | switching
    · exact settled
    · refine .inr ⟨running, ?_⟩
      by_contra taken
      exact calm ⟨taken, switching⟩
  exact ⟨settled, pause.isMoment settled⟩

section
variable {F : Foreign P (Exec P)} {t u : State P} {e : Entry}
  (entered : Isolate.enter F t = (.value (some e), u))
include entered

/-- What is run inside once the isolate is entered. -/
theorem Isolate.within_of_enter (x : Entry → Exec P α) :
    within F x t = ((x e).ensure (leave F e) >>= fun a => pure (some a)) u := by
  unfold within
  rw [run_bind, entered]

variable (running : t.bridge.phase = .running)
include running

/-- An event that gets in is delivered. -/
theorem Dispatch.dispatch_of_enter (k : EventKind) (args : Args k.params) :
    dispatch F k args t = ((deliver F k args).ensure (Isolate.leave F e)) u := by
  unfold dispatch
  rw [run_bind, Lifecycle.isRunning_eq running]
  dsimp only
  rw [if_pos rfl, run_bind, Isolate.within_of_enter entered, run_bind]
  rcases ((deliver F k args).ensure (Isolate.leave F e)) u with ⟨a | m | w, v⟩ <;> rfl

/-- A tick that gets in drains. -/
theorem Lifecycle.tick_of_enter :
    tick F t = ((Isolate.inScope F (Isolate.drain F)).ensure (Isolate.leave F e)) u := by
  unfold tick
  rw [run_bind, isRunning_eq running]
  dsimp only
  rw [if_pos rfl]
  change (Isolate.within F (fun _ => Isolate.inScope F (Isolate.drain F)) >>= fun _ =>
    pure ()) t = _
  rw [run_bind, Isolate.within_of_enter entered, run_bind]
  rcases ((Isolate.inScope F (Isolate.drain F)).ensure (Isolate.leave F e)) u with
    ⟨a | m | w, v⟩ <;> rfl

end

/-! ### Footings in a process -/

namespace Process

variable {S : Surroundings N (Act N.platform)} {extra : {α : Type} → N.Extra α → Act N.platform α}
  {limit : Nat}

section
variable (run : ∀ {β : Type} (b : Act N.platform β), KeepsFooting ((system S extra).exec limit b))
include run

theorem footingLibrary (σ : Footing N.platform) :
    LibraryContract (S.map fun b => (system S extra).exec limit b).library (On σ.Holds)
      Momentary where
  each := (S.each_map fun b => run b σ).library
  called _ := On.recordOther rfl
  loaded h := h

theorem footingDealings (σ : Footing N.platform) :
    DealingsContract (S.map fun b => (system S extra).exec limit b)
      (fun o => (system S extra).exec limit (extra o)) (On σ.Holds) Momentary where
  aside {s t} h same := by
    rw [On, ← t.stance_dealings, ← same, s.stance_dealings]
    exact h
  halts _ h := h.isPause
  java := (S.each_map fun b => run b σ).java
  handler _ _ _ := run _ σ
  sink _ _ _ := run _ σ
  extra _ := run _ σ

variable (quiet : S.library.exitIsolate.IsQuiet)
include quiet

theorem keepsFootings : KeepsFootings ((system S extra).foreign limit) where
  start config σ := (footingLibrary run σ).start config
  loadImage image σ := (footingLibrary run σ).loadImage image
  enterIsolate i σ := (footingLibrary run σ).enterIsolate i
  exitIsolate v pause := by
    have asked : Triple (At v) (LibraryVm.isLoaded (N := N)) (fun _ => At v) (fun _ => False)
        Momentary := Triple.asked
    have recorded : Triple (At v) (Exec.record (.signal (Signal.library .exitIsolate)))
        (fun _ => At v) (fun _ => False) Momentary := Triple.record fun _ => On.recordOther rfl
    refine asked.bind fun loaded => ?_
    split
    · exact recorded.bind fun _ => System.exec_leavesStance quiet v pause
    · exact Triple.pure fun _ h => h
  enterScope σ := (footingLibrary run σ).callIfLoaded (footingLibrary run σ).each.enterScope
  exitScope σ := (footingLibrary run σ).callIfLoaded (footingLibrary run σ).each.exitScope
  entryPoint name σ := (footingLibrary run σ).entryPoint name
  drain σ := (footingLibrary run σ).drainQueue
  shutdownIsolate i σ := (footingLibrary run σ).endIsolate i
  stop σ := (footingLibrary run σ).callIfLoaded (footingLibrary run σ).each.stop
  handler _ _ _ := run _

end

/-- Every program keeps every footing. -/
theorem exec_keepsFooting (quiet : S.library.exitIsolate.IsQuiet) (limit : Nat)
    (a : Act N.platform α) : KeepsFooting ((system S extra).exec limit a) :=
  fun σ => System.exec_keeps (I := fun σ : Footing N.platform => On σ.Holds)
    (fun _ _ h => h.isPause) (fun _ run => .ofDealings (footingDealings fun b σ => run b σ)
      (keepsFootings (fun b σ => run b σ) quiet).kept) limit a σ

/-! ### Whoever comes with an event gets in -/

section
variable (quiet : ∀ i, (S.library.enterIsolate i).IsQuiet) {depth : Nat} {i : N.Isolate}
  (real : N.isNull i = false)
include quiet real

/-- A library that is loaded does enter an isolate that there is. -/
theorem callEnterIsolate_enters {d : Dealings N} (loaded : d.loaded = true) :
    Always (Having (· = d)) (((system S extra).foreign (depth + 1)).vm.callEnterIsolate i)
      fun r s => r = .ok () ∧ Having (· = d.entered i) s := by
  have enters : Always (Having (· = d.add (.asked (.enterIsolate i))))
      (LibraryVm.enterIsolate (S.map fun b => (system S extra).exec (depth + 1) b).library i)
      fun r s => r = .ok () ∧
        Having (· = (d.add (.asked (.enterIsolate i))).add (.called (.enterIsolate i))) s := by
    unfold LibraryVm.enterIsolate LibraryVm.whenLoaded
    refine Triple.bind (Having.reads Dealings.loaded fun _ => rfl) fun b => Triple.of_and ?_
    rintro rfl
    rw [if_pos (show (d.add _).loaded = true from loaded), if_neg (by simp [real])]
    refine Triple.bind (Triple.bind (Having.record rfl ?_) fun _ => Having.quiet (quiet i) depth)
      fun _ => Triple.pure fun s hs => ⟨rfl, hs⟩
    rintro _ rfl
    rfl
  unfold Vm.callEnterIsolate Vm.tryCall
  refine Triple.bind (Having.record (K := (· = d.add (.asked (.enterIsolate i)))) rfl ?_)
    fun _ => ?_
  · rintro _ rfl
    rfl
  refine Triple.bind enters fun r => Triple.of_and ?_
  rintro rfl
  refine Triple.bind (Having.record (K := (· = d.entered i)) rfl ?_) fun _ =>
    Triple.pure fun s hs => ⟨rfl, hs⟩
  rintro _ rfl
  rfl

/-- Who finds the gate free gets in. -/
theorem enter_enters {d : Dealings N} (free : d.guard = {}) (isolate : d.isolate = some i)
    (loaded : d.loaded = true) :
    Always (Having (· = d)) (Isolate.enter ((system S extra).foreign (depth + 1)))
      fun r s => r = some .outer ∧
        Having (· = { d.entered i with guard := ⟨true, some d.thread, 1⟩ }) s := by
  let taken : Dealings N := { d with guard := { gateTaken := true } }
  have activated : Always (Having (· = taken))
      (Isolate.activate ((system S extra).foreign (depth + 1)))
      fun r s => r = true ∧ Having (· = taken.entered i) s := by
    unfold Isolate.activate
    refine Triple.bind (Having.reads Dealings.isolate fun _ => rfl) fun found => Triple.of_and ?_
    rintro rfl
    rw [show taken.isolate = some i from isolate]
    dsimp only
    refine Triple.bind (callEnterIsolate_enters quiet real loaded) fun r => Triple.of_and ?_
    rintro rfl
    exact Triple.pure fun s hs => ⟨rfl, hs⟩
  unfold Isolate.enter
  refine Triple.bind (Having.reads Dealings.thread fun _ => rfl) fun me => Triple.of_and ?_
  rintro rfl
  refine Triple.bind (Having.reads Dealings.guard fun _ => rfl) fun g => Triple.of_and ?_
  rintro rfl
  rw [show d.guard.admission d.thread = .gate by rw [free]; rfl]
  dsimp only
  refine Triple.bind (Having.update (K := (· = taken))
    (fun d => { d with guard := d.guard.takeGate }) (fun _ => rfl) ?_) fun _ => ?_
  · rintro _ rfl
    simp only [taken, free]
    rfl
  refine Triple.bind (Triple.onPanic activated fun _ h => h.elim) fun r => Triple.of_and ?_
  rintro rfl
  rw [if_pos rfl]
  refine Triple.bind (Having.update (fun u => { u with guard := u.guard.settle d.thread })
    (fun _ => rfl) ?_) fun _ => Triple.pure fun s hs => ⟨rfl, hs⟩
  rintro _ rfl
  rfl

end

/-- The session runs, and the thread has just entered. -/
theorem holdsIsolate_of_entered {d : Dealings N} {i : N.Isolate} {u : State N.platform}
    (running : d.phase = .running) (isolate : d.isolate = some i)
    (after : u.dealings = { d.entered i with guard := ⟨true, some d.thread, 1⟩ }) :
    u.HoldsIsolate i := by
  have thread : u.thread = d.thread := congrArg Dealings.thread after
  have guard : u.bridge.guard = ⟨true, some d.thread, 1⟩ := congrArg Dealings.guard after
  refine ⟨(congrArg Dealings.phase after).trans running,
    (congrArg Dealings.isolate after).trans isolate, ?_, ?_⟩
  · rw [guard, thread]
    simp [Guard.heldBy]
  · have stance : u.vmHistory = (d.entered i).stance.trace :=
      (congrArg Stance.trace u.stance_dealings).symm.trans (congrArg (·.stance.trace) after)
    rw [stance, Dealings.entered, Dealings.stance_add, Dealings.stance_add, Dealings.stance_add]
    simp only [Stance.trace_grow, LibraryEvent.vmEvent?, Option.toList, List.append_assoc]
    rw [view, List.foldl_append]
    rfl

/-- Where a thread comes to the isolate it gets in: it is inside already, or the VM enters the
isolate. Events and ticks are then dealt with inside. -/
def LetsIn (F : Foreign N.platform (Exec N.platform)) (t : State N.platform) : Prop :=
  ∃ i e u, Isolate.enter F t = (.value (some e), u) ∧ u.HoldsIsolate i ∧
    (e = .nested ∧ t.HoldsIsolate i ∨ e = .outer ∧ u.libraryTrace =
      [.returned .done, .called (.enterIsolate i), .asked (.enterIsolate i)] ++ t.libraryTrace) ∧
    (∀ k args, Dispatch.dispatch F k args t =
      ((Dispatch.deliver F k args).ensure (Isolate.leave F e)) u) ∧
    Lifecycle.tick F t = ((Isolate.inScope F (Isolate.drain F)).ensure (Isolate.leave F e)) u

theorem letsIn (quiet : ∀ i, (S.library.enterIsolate i).IsQuiet) {t : State N.platform}
    (pause : Momentary t) (running : t.bridge.phase = .running) (calm : ¬ t.Switching)
    (loaded : t.ledger.loaded = true) (real : ∀ i, t.bridge.isolate = some i → N.isNull i = false)
    (depth : Nat) : LetsIn ((system S extra).foreign (depth + 1)) t := by
  obtain ⟨settled, σ, h⟩ := Stance.IsPause.footing pause running calm
  have gets {i e u} (entered : Isolate.enter _ t = (.value (some e), u)) (holds : u.HoldsIsolate i)
      (way : _) : LetsIn ((system S extra).foreign (depth + 1)) t :=
    ⟨i, e, u, entered, holds, way, fun k args => Dispatch.dispatch_of_enter entered running k args,
      Lifecycle.tick_of_enter entered running⟩
  -- Outside nobody is in the way, and inside the entry is nested in one of the same thread. Where
  -- the gate is taken by an entry that the VM has not granted yet nothing is settled.
  rcases h.of_running running with ⟨-, free, -, i, isolate⟩ | ⟨-, gate, left⟩ |
    ⟨thread, i, nested, -, inside⟩
  · have outer : Always (· = t) (Isolate.enter ((system S extra).foreign (depth + 1))) _ :=
      (enter_enters quiet (real i isolate) free isolate loaded).of_imp fun s same =>
        congrArg State.dealings same
    obtain ⟨_, u, entered, rfl, after⟩ := outer.comes
    exact gets entered (holdsIsolate_of_entered running isolate after)
      (.inr ⟨rfl, congrArg Dealings.trace after⟩)
  · rcases settled with entered | ⟨-, free⟩
    · exact absurd left entered
    · cases gate.symm.trans free
  · have again : Always (· = t) (Isolate.enter ((system S extra).foreign (depth + 1))) _ :=
      KeepsFootings.enter_inside.of_imp fun s same => same ▸ inside
    obtain ⟨r, u, entered, deeper⟩ := again.comes
    cases r with
    | none => exact deeper.elim
    | some e =>
      obtain ⟨rfl, holds⟩ := deeper
      exact gets entered (Footing.inside_holds holds).1
        (.inl ⟨rfl, (Footing.inside_holds inside).1⟩)

end Process

end HostBridge
