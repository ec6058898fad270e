import HostBridge.Proofs.Plain
import HostBridge.Proofs.StandingEntry
import HostBridge.Proofs.StandingSession

/-!
The discipline of calls into the VM. Whatever the program of a VM and the handlers it installed do,
the calls that a bridge makes are those of one session after another.
-/
namespace HostBridge

open Exec VmEvent

variable {P : Platform} {α : Type}

/-! ### Foreign code whose VM is tame -/

/-- A program that asks nothing of the bridge and does not panic. -/
def Act.IsQuiet {α : Type} : Act P α → Prop
  | .pure _ => True
  | .bind x f => x.IsQuiet ∧ ∀ b, (f b).IsQuiet
  | .panic _ => False
  | .attempt x => x.IsQuiet
  | .note _ => True
  | .world _ => True
  | .op _ => False
  | .extra _ => False

/-- A computation that does not panic. -/
def Exec.NeverPanics (x : Exec P α) : Prop := ∀ s m, (x s).1 ≠ .panic m

/-- Foreign code of whose VM nothing but entry points and drains runs code of the program, and these
come back. -/
structure Foreign.HasTameVm (F : Foreign P (Act P)) : Prop where
  start : ∀ config, (F.vm.start config).IsQuiet
  loadImage : ∀ image, (F.vm.loadImage image).IsQuiet
  enterIsolate : ∀ i, (F.vm.enterIsolate i).IsQuiet
  exitIsolate : F.vm.exitIsolate.IsQuiet
  enterScope : F.vm.enterScope.IsQuiet
  exitScope : F.vm.exitScope.IsQuiet
  shutdownIsolate : ∀ i, (F.vm.shutdownIsolate i).IsQuiet
  stop : F.vm.stop.IsQuiet
  entryPoint : ∀ name limit,
    ((System.ofPrograms F).exec limit (F.vm.entryPoint name)).NeverPanics
  drain : ∀ limit, ((System.ofPrograms F).exec limit F.vm.drain).NeverPanics

/-- A quiet program comes back, and keeps whatever notes and the memory of foreign code have no part
in. -/
theorem Act.IsQuiet.run_keeps {a : Act P α} (quiet : a.IsQuiet) (F : Foreign P (Exec P))
    {I H : State P → Prop}
    (note : ∀ {s} (n : P.Note), I s → I { s with record := .note n :: s.record })
    (world : ∀ {s} (w : P.World), I s → I { s with world := w }) :
    Triple I (a.run F) (fun _ => I) (fun _ => False) H := by
  induction a with
  | pure a => exact Triple.pure fun _ h => h
  | bind x f ihx ihf => exact (ihx quiet.1).bind fun b => ihf b (quiet.2 b)
  | panic m => exact quiet.elim
  | attempt x ih =>
    refine (ih quiet).attempt.weaken fun r _ h => ?_
    cases r with
    | ok a => exact h
    | error m => exact h.elim
  | note n => exact Triple.modify fun _ => note n
  | world f => exact fun _ h => world _ h
  | op o => exact quiet.elim
  | extra o => exact quiet.elim

/-- A quiet program leaves every stance as it is. -/
theorem Act.IsQuiet.run_at {a : Act P α} (quiet : a.IsQuiet) (F : Foreign P (Exec P)) {v : Stance P}
    {H : State P → Prop} : Triple (At v) (a.run F) (fun _ => At v) (fun _ => False) H :=
  quiet.run_keeps F (fun _ => On.recordOther rfl) fun _ h => h

/-- Standings are kept by all that a program may ask of a session. -/
theorem RespectsStandings.kept {F : Foreign P (Exec P)} (R : RespectsStandings F) :
    SessionKept F (fun σ : Standing P => On σ.Holds) Lawful where
  launch σ path := R.launch_keeps path σ
  launchWith σ path config := R.launchWith_keeps path config σ
  tick σ := R.tick_keeps σ
  dispatch σ k args := R.dispatch_keeps k args σ
  shutdown σ := R.shutdown_keeps σ

namespace System

variable {F : Foreign P (Act P)} {limit : Nat}

theorem exec_isIdle {a : Act P α} (quiet : a.IsQuiet) : IsIdle ((ofPrograms F).exec limit a) := by
  intro v lawful
  cases limit with
  | zero => exact Triple.halt fun _ => On.intro lawful
  | succ limit => exact quiet.run_at _

/-- What keeps every standing and does not panic. -/
theorem triple_of_neverPanics {x : Exec P α} {I H : State P → Prop} (hx : Keeps I H x)
    (never : x.NeverPanics) : Triple I x (fun _ => I) (fun _ => False) H := by
  intro s hs
  have h := hx s hs
  have hne := never s
  rcases hrun : x s with ⟨a | m | w, t⟩ <;> rw [hrun] at h hne
  · exact h
  · exact hne m rfl
  · exact h

section

variable (tame : F.HasTameVm)
  (run : ∀ {β : Type} (b : Act P β) (σ : Standing P),
    Keeps (On σ.Holds) Lawful ((ofPrograms F).exec limit b))
include tame run

/-- Tame foreign code respects the standings if the programs it runs keep them. -/
theorem respectsStandings : RespectsStandings ((ofPrograms F).foreign limit) where
  start config := exec_isIdle (tame.start config)
  loadImage image := exec_isIdle (tame.loadImage image)
  enterIsolate i := exec_isIdle (tame.enterIsolate i)
  exitIsolate := exec_isIdle tame.exitIsolate
  enterScope := exec_isIdle tame.enterScope
  exitScope := exec_isIdle tame.exitScope
  shutdownIsolate i := exec_isIdle (tame.shutdownIsolate i)
  stop := exec_isIdle tame.stop
  entryPoint name σ := triple_of_neverPanics (run _ σ) (tame.entryPoint name limit)
  drain σ := triple_of_neverPanics (run _ σ) (tame.drain limit)
  handler _ _ _ σ := run _ σ

omit tame in
theorem standing_unaware (σ : Standing P) :
    Unaware ((ofPrograms F).foreign limit) (On σ.Holds) Lawful :=
  On.unaware (fun _ h => h.isLawful) fun b => run b σ

def standingContract :
    ProgramContract ((ofPrograms F).foreign limit) (fun σ : Standing P => On σ.Holds) Lawful :=
  .ofPrograms (.ofUnaware (standing_unaware run)) (fun _ => On.programBlind)
    (respectsStandings tame run).kept
    (fun σ => (standing_unaware run σ).clearMembers fun _ h => h) run

end

/-- Every program keeps every standing. -/
theorem exec_keeps_standing (tame : F.HasTameVm) (limit : Nat) (a : Act P α) (σ : Standing P) :
    Keeps (On σ.Holds) Lawful ((ofPrograms F).exec limit a) :=
  exec_keeps (I := fun σ : Standing P => On σ.Holds) (fun _ _ h => h.isLawful)
    (fun _ run => standingContract tame run) limit a σ

/-- The calls into the VM that a new bridge makes are, at every moment, the beginning of sessions
one after another, whatever programs use it on whatever threads. -/
theorem vmHistory_isLawful (tame : F.HasTameVm) (limit : Nat)
    (turns : List (ThreadId × Act P Unit)) {s : State P} (new : s.bridge = {})
    (unrecorded : s.record = []) :
    IsLawful ((ofPrograms F).runTurns limit turns s).vmHistory := by
  have empty : s.vmHistory = [] := by simp [State.vmHistory, State.history, unrecorded]
  refine runTurns_keeps (H := Lawful) (fun _ h => h.isLawful) (fun _ _ h => h)
    (fun a => exec_keeps_standing tame limit a .calm) turns ?_
  refine ⟨by simp [State.stance, new], .inl ⟨by simp [State.stance, new], ?_⟩⟩
  change AreSessions s.vmHistory
  rw [empty]
  exact areSessions_nil

end System

theorem Plain.hasTameVm : (Plain.foreign (pure (.ok ()))).HasTameVm where
  start _ := trivial
  loadImage _ := trivial
  enterIsolate _ := trivial
  exitIsolate := trivial
  enterScope := trivial
  exitScope := trivial
  shutdownIsolate _ := trivial
  stop := trivial
  entryPoint _ limit := by
    intro s m h
    cases limit <;> cases h
  drain limit := by
    intro s m h
    cases limit <;> cases h

/-- A session of the plain world that one thread begins, one ticks and a third one ends. -/
theorem System.vmHistory_isLawful_plain :
    (Plain.foreign (pure (.ok ()))).HasTameVm ∧ Plain.start.bridge = {} ∧ Plain.start.record = [] ∧
      IsLawful ((ofPrograms (Plain.foreign (pure (.ok ())))).runTurns 2
        [(0, (Act.op (.launchWith Plain.imagePath {})).bind fun _ => pure ()), (1, Act.op .tick),
          (2, (Act.op .shutdown).bind fun _ => pure ())] Plain.start).vmHistory :=
  ⟨Plain.hasTameVm, rfl, rfl, vmHistory_isLawful Plain.hasTameVm 2 _ rfl rfl⟩

end HostBridge
