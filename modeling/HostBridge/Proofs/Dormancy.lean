import HostBridge.Proofs.Lasting

/-!
A bridge without a session. Until a VM is started nothing is delivered and nothing is run: events
have their default answers, a shutdown has nothing to end, and no call goes into the VM.
-/
namespace HostBridge

open Exec

variable {P : Platform} {α : Type}

/-- Since the record was `r` a VM has been started. -/
def Started (r : List (Happening P)) (_ : HandleTable P.Object) (record : List (Happening P)) :
    Prop :=
  ∃ news, record = news ++ r ∧ ∃ config, .vmCall (.start config) ∈ news

/-- There is no session, and since the record was `r` no call into the VM has been made. -/
def Dormant (r : List (Happening P)) (s : State P) : Prop :=
  s.bridge.phase = .uninitialized ∧ s.bridge.guard = {} ∧
    ∃ news, s.record = news ++ r ∧ ∀ c, .vmCall c ∉ news

/-- States that are without a session as long as no VM is started. -/
def SleepsSince (r : List (Happening P)) (s : State P) : Prop := Dormant r s ∨ Of (Started r) s

theorem Started.lasting (r : List (Happening P)) : Lasting (Started r) where
  handles _ h := h
  record e h := by
    obtain ⟨news, rfl, config, started⟩ := h
    exact ⟨e :: news, rfl, config, List.mem_cons_of_mem e started⟩

/-- The call that starts a VM. -/
theorem Started.of_suffix {r record : List (Happening P)} (grown : r <:+ record) (config : Config)
    (t : HandleTable P.Object) : Started r t (.vmCall (.start config) :: record) := by
  obtain ⟨news, rfl⟩ := grown
  exact ⟨.vmCall (.start config) :: news, rfl, config, List.mem_cons_self⟩

/-- What brings an image up starts a VM, however it ends. -/
theorem Started.of_boot {r : List (Happening P)} {F : Foreign P (Exec P)}
    (code : SessionBlind F (Of (Started r)) (Of (Started r))) (image : Image) (config : Config) :
    Triple (fun s => r <:+ s.record) (Lifecycle.boot F image config) (fun _ => Of (Started r))
      (Of (Started r)) (Of (Started r)) := by
  refine code.boot_of_start image ?_
  refine Triple.bind (Triple.record fun s h => Started.of_suffix h config s.bridge.handles)
    fun _ => Triple.bind (code.start config) fun result => ?_
  exact (Keeps.record fun _ => (Started.lasting r).record _).bind fun _ => Keeps.pure

/-- Foreign code that is given as programs keeps a VM started. -/
theorem Started.session (r : List (Happening P)) (F : Foreign P (Act P)) (limit : Nat) :
    SessionBlind ((System.ofPrograms F).foreign limit) (Of (Started r)) (Of (Started r)) :=
  (Started.lasting r).session fun b => (Started.lasting r).exec_keeps F limit b

namespace Dormant

variable {r : List (Happening P)} {s : State P}

theorem self (phase : s.bridge.phase = .uninitialized) (guard : s.bridge.guard = {}) :
    Dormant s.record s :=
  ⟨phase, guard, [], rfl, by simp⟩

theorem onThread (h : Dormant r s) (thread : ThreadId) :
    Dormant r { s with thread := thread } := h

theorem grown (h : Dormant r s) : r <:+ s.record := by
  obtain ⟨-, -, news, record, -⟩ := h
  exact ⟨news, record.symm⟩

theorem recordOther (h : Dormant r s) {e : Happening P} (other : ∀ c, e ≠ .vmCall c) :
    Dormant r { s with record := e :: s.record } := by
  obtain ⟨phase, guard, news, record, silent⟩ := h
  refine ⟨phase, guard, e :: news, by simp [record], fun c called => ?_⟩
  rcases List.mem_cons.mp called with called | called
  · exact other c called.symm
  · exact silent c called

variable (F : Foreign P (Exec P))

theorem isRunning (h : Dormant r s) : Lifecycle.isRunning s = (.value false, s) := by
  simp [Lifecycle.isRunning, Lifecycle.phase, Exec.bridge, Exec.run_bind, h.1]

theorem tick (h : Dormant r s) : Lifecycle.tick F s = (.value (), s) := by
  unfold Lifecycle.tick
  rw [Exec.run_bind, h.isRunning]
  rfl

/-- Every event has its default answer. -/
theorem dispatch (h : Dormant r s) (k : EventKind) (args : Args k.params) :
    Dispatch.dispatch F k args s = (.value k.default, s) := by
  unfold Dispatch.dispatch
  rw [Exec.run_bind, h.isRunning]
  rfl

/-- There is nothing to end. -/
theorem shutdown (h : Dormant r s) : Lifecycle.shutdown F s = (.value (.ok false), s) := by
  have outside : s.bridge.guard.heldBy s.thread = false := by
    rw [h.2.1]
    simp [Guard.heldBy]
  have begun : Lifecycle.beginShutdown s = (.value (.ok false), s) := by
    unfold Lifecycle.beginShutdown
    simp [Exec.bridge, Exec.run_bind, outside, h.isRunning]
  unfold Lifecycle.shutdown Lifecycle.shutdownWith
  rw [Exec.run_bind, Exec.run_bind, begun]
  rfl

end Dormant

/-! ### Operations -/

namespace SleepsSince

variable {r : List (Happening P)} {s : State P}

theorem recordOther (h : SleepsSince r s) {e : Happening P} (other : ∀ c, e ≠ .vmCall c) :
    SleepsSince r { s with record := e :: s.record } := by
  rcases h with dormant | started
  · exact .inl (dormant.recordOther other)
  · exact .inr ((Started.lasting r).record e started)

theorem inert (r : List (Happening P)) : Inert (SleepsSince r) (SleepsSince r) where
  handles _ h := h
  memory _ h := h
  sides _ _ h := h
  report _ h := h.recordOther fun _ => nofun
  halts _ h := h

theorem programBlind (r : List (Happening P)) : ProgramBlind (SleepsSince r) where
  set _ _ _ _ h := h
  record e own h := h.recordOther fun c => by
    rintro rfl
    cases own

/-- A computation is followed from a dormant state and from one in which a VM was started. -/
theorem keeps_of {x : Exec P α}
    (dormant : Triple (Dormant r) x (fun _ => SleepsSince r) (SleepsSince r) (SleepsSince r))
    (started : Keeps (Of (Started r)) (Of (Started r)) x) :
    Keeps (SleepsSince r) (SleepsSince r) x := by
  intro s hs
  rcases hs with hs | hs
  · exact dormant s hs
  · exact started.conseq (fun _ h => h) (fun _ _ => .inr) (fun _ => .inr) (fun _ => .inr) s hs

/-- What does nothing without a session. -/
theorem of_idle {x : Exec P α} {a : α} (idle : ∀ s, Dormant r s → x s = (.value a, s)) :
    Triple (Dormant r) x (fun _ => SleepsSince r) (SleepsSince r) (SleepsSince r) := by
  intro s hs
  rw [idle s hs]
  exact .inl hs

section
variable {F : Foreign P (Act P)} {limit : Nat}
  (code : SessionBlind ((System.ofPrograms F).foreign limit) (Of (Started r)) (Of (Started r)))
include code

/-- A start that goes beyond its first check starts a VM. -/
theorem start_dormant (image : Image) (config : Config) :
    Triple (Dormant r) (Lifecycle.start ((System.ofPrograms F).foreign limit) image config)
      (fun _ => SleepsSince r) (SleepsSince r) (SleepsSince r) := by
  have set : Triple (Dormant r) (Lifecycle.setPhase .initializing)
      (fun _ s => r <:+ s.record) (Of (Started r)) (Of (Started r)) :=
    Triple.update fun _ h => h.grown
  unfold Lifecycle.start
  refine Triple.bind Triple.asks fun now => ?_
  split
  · exact Triple.pure fun _ h => .inl h.2
  · refine Triple.conseq
      (Triple.bind set fun _ => (Started.of_boot code image config).bind fun result => ?_)
      (fun _ h => h.2) (fun _ _ => .inr) (fun _ => .inr) fun _ => .inr
    cases result with
    | ok isolate => exact Keeps.bind (Keeps.modify fun _ h => h) fun _ => Keeps.pure
    | error e =>
      refine Keeps.bind (Keeps.modify fun _ h => h) fun _ => Keeps.bind ?_ fun _ => Keeps.pure
      exact Keeps.record fun _ => (Started.lasting r).record _

theorem start_keeps (image : Image) (config : Config) :
    Keeps (SleepsSince r) (SleepsSince r)
      (Lifecycle.start ((System.ofPrograms F).foreign limit) image config) :=
  keeps_of (start_dormant code image config)
    ((SessionContract.ofBlind fun _ : Unit => code).start_keeps () image config)

theorem launchWith_keeps (path : Path) (config : Config) :
    Keeps (SleepsSince r) (SleepsSince r)
      (Lifecycle.launchWith ((System.ofPrograms F).foreign limit) path config) :=
  launchWith_keeps_of_start (fun _ h => h) (start_keeps code) path config

theorem shutdown_keeps : Keeps (SleepsSince r) (SleepsSince r)
    (Lifecycle.shutdown ((System.ofPrograms F).foreign limit)) :=
  keeps_of (of_idle fun _ h => h.shutdown _)
    ((SessionContract.ofBlind fun _ : Unit => code).shutdown_keeps ())

theorem tick_keeps : Keeps (SleepsSince r) (SleepsSince r)
    (Lifecycle.tick ((System.ofPrograms F).foreign limit)) :=
  keeps_of (of_idle fun _ h => h.tick _)
    ((SessionContract.ofBlind fun _ : Unit => code).tick_keeps ())

theorem dispatch_keeps (k : EventKind) (args : Args k.params) :
    Keeps (SleepsSince r) (SleepsSince r)
      (Dispatch.dispatch ((System.ofPrograms F).foreign limit) k args) :=
  keeps_of (of_idle fun _ h => h.dispatch _ k args)
    ((SessionContract.ofBlind fun _ : Unit => code).dispatch_keeps () k args)

variable (run : ∀ {β : Type} (b : Act P β),
  Keeps (SleepsSince r) (SleepsSince r) ((System.ofPrograms F).exec limit b))
include run

omit code in
theorem unaware : Unaware ((System.ofPrograms F).foreign limit) (SleepsSince r)
    (SleepsSince r) :=
  System.unaware_ofPrograms (inert r) (fun _ h => h) (fun _ h => h.recordOther fun _ => nofun) run

omit run in
theorem kept : SessionKept ((System.ofPrograms F).foreign limit)
    (fun _ : Unit => SleepsSince (P := P) r) (SleepsSince r) where
  launch _ := launch_keeps_of_launchWith (inert r).toDetached (launchWith_keeps code)
  launchWith _ := launchWith_keeps code
  shutdown _ := shutdown_keeps code
  tick _ := tick_keeps code
  dispatch _ := dispatch_keeps code

def contract : ProgramContract ((System.ofPrograms F).foreign limit)
    (fun _ : Unit => SleepsSince (P := P) r) (SleepsSince r) :=
  .ofPrograms (.ofUnaware fun _ => unaware run) (fun _ => programBlind r) (kept code)
    (fun _ => (unaware run).clearMembers fun _ h => h) fun b _ => run b

end

/-- Whatever programs do after the record was `r`, there is no session until a VM is started. -/
theorem runTurns (F : Foreign P (Act P)) (limit : Nat) (turns : List (ThreadId × Act P Unit))
    (hs : SleepsSince r s) : SleepsSince r ((System.ofPrograms F).runTurns limit turns s) := by
  have kept (a : Act P Unit) :
      Keeps (SleepsSince r) (SleepsSince r) ((System.ofPrograms F).exec limit a) :=
    System.exec_keeps (I := fun _ : Unit => SleepsSince r) (fun _ _ h => h)
      (fun limit run => contract (Started.session r F limit) fun b => run b ()) limit a ()
  exact System.runTurns_keeps (fun _ h => h) (fun _ _ h => h) kept turns hs

end SleepsSince
end HostBridge
