import HostBridge.Proofs.Dormancy
import HostBridge.Proofs.FreshHandles
import HostBridge.Proofs.GateStates
import HostBridge.Proofs.LeavesBridge
import HostBridge.Proofs.Plain

/-!
What a shutdown leaves. A bridge that was shut down is a new one, but for its counters and its chat
sink: whatever the program installed, pinned or looked up is gone, and handles from before find
nothing in any session to come.
-/
namespace HostBridge

open Exec

variable {P : Platform} {α : Type}

/-- A new bridge that counts on from an old one and has its chat sink. -/
def Bridge.renewed (b : Bridge P) : Bridge P where
  handles := { issued := b.handles.issued }
  members := { resolutions := b.members.resolutions }
  chatSink := b.chatSink

/-- Foreign code whose VM does not use the bridge while a session is taken down. -/
structure Foreign.EndsAlone (F : Foreign P (Exec P)) : Prop where
  shutdownIsolate : ∀ i, (F.vm.shutdownIsolate i).LeavesBridge
  stop : F.vm.stop.LeavesBridge

/-! ### The steps of a shutdown -/

namespace Lifecycle

variable {F : Foreign P (Exec P)} {b : Bridge P} {me : ThreadId}

/-- States with a certain bridge in which a certain thread runs. -/
def RunBy (b : Bridge P) (me : ThreadId) (s : State P) : Prop := HasBridge b s ∧ s.thread = me

/-- Dropping references touches neither the bridge nor the thread. -/
theorem upkeep_runBy {E H : State P → Prop} (f : P.Ledger → P.World → P.Ledger × P.World) :
    Triple (RunBy b me) (Exec.upkeep f) (fun _ => RunBy b me) E H :=
  Triple.modify fun _ h => h

theorem update_runBy {E H : State P → Prop} (f : Bridge P → Bridge P) :
    Triple (RunBy b me) (Exec.update f) (fun _ => RunBy (f b) me) E H :=
  Triple.update fun _ h => ⟨congrArg f h.1, h.2⟩

/-- A shutdown begins from outside the isolate only, and only if a session runs. -/
theorem beginShutdown_gives : Gives (RunBy b me) beginShutdown (fun r s =>
    r = .ok true → b.guard.heldBy me = false ∧ RunBy { b with phase := .shuttingDown } me s) := by
  unfold beginShutdown
  refine Triple.bind Triple.asks fun me' => Triple.bind Triple.asks fun g => ?_
  refine Triple.of_pre fun s h => ?_
  obtain ⟨rfl, rfl, rfl, rfl⟩ := h
  dsimp only
  split
  · exact Triple.bind Triple.any fun _ => Triple.pure fun _ _ => nofun
  · rename_i outside
    refine Triple.bind Triple.self fun running => ?_
    split
    · refine Triple.bind (Triple.update fun t seen => ?_) fun _ => Triple.pure fun _ h _ => h
      cases seen
      exact ⟨by simpa using outside, rfl, rfl⟩
    · exact Triple.pure fun _ _ => nofun

/-- The handlers, the cache and the table are emptied. -/
theorem clear_gives {E H : State P → Prop} :
    Triple (RunBy b me) (clear F) (fun _ => RunBy { b with
      handlers := .empty
      members := b.members.clear
      handles := b.handles.releaseAll.2 } me) E H := by
  have members {b : Bridge P} : Triple (RunBy b me) (Members.clear F)
      (fun _ => RunBy { b with members := b.members.clear } me) E H :=
    Triple.bind Triple.asked fun _ => Triple.bind (update_runBy _) fun _ =>
      Triple.bind (Triple.forM (fun _ => upkeep_runBy _) _) fun _ => Triple.pure fun _ h => h
  have handles {b : Bridge P} : Triple (RunBy b me) (Objects.releaseAll F)
      (fun _ => RunBy { b with handles := b.handles.releaseAll.2 } me) E H := by
    refine Triple.bind Triple.asks fun table => Triple.of_pre fun s h => ?_
    obtain ⟨rfl, h⟩ := h
    refine Triple.bind (Triple.update fun t seen => ?_) fun _ =>
      Triple.bind (Triple.forM (fun _ => upkeep_runBy _) _) fun _ => Triple.pure fun _ h => h
    obtain ⟨rfl, rfl⟩ := h
    cases seen
    exact ⟨rfl, rfl⟩
  exact Triple.bind (update_runBy _) fun _ => Triple.bind members.discard fun _ => handles.discard

/-- What ends the isolate does so with all threads kept out, and the guard is new after it. -/
theorem exclusively_gives {x : Exec P Unit}
    (hx : ∀ b : Bridge P, Gives (HasBridge b) x (fun _ => HasBridge { b with isolate := none }))
    (settled : b.guard.gateTaken = false → b.guard = {}) (outside : b.guard.heldBy me = false) :
    Gives (RunBy b me) (Isolate.exclusively x)
      (fun _ => HasBridge { b with isolate := none, guard := {} }) := by
  unfold Isolate.exclusively
  refine Triple.bind Triple.asks fun me' => Triple.bind Triple.asks fun g => ?_
  refine Triple.of_pre fun s h => ?_
  obtain ⟨rfl, rfl, rfl, rfl⟩ := h
  dsimp only
  rw [if_neg (by simp [outside])]
  split
  · exact Triple.halt fun _ _ => trivial
  · rename_i free
    have new : s.bridge.guard = {} := settled (by simpa using free)
    have closed : Gives (· = s) (Isolate.setGuard .takeGate)
        (fun _ => HasBridge { s.bridge with guard := { gateTaken := true } }) := by
      refine Triple.update fun t seen => ?_
      rw [seen, new]
      rfl
    refine Triple.bind closed fun _ => ?_
    exact Triple.ensure (hx _) (fun _ => HasBridge.update _) Triple.any

/-- The isolate is destroyed while nobody is inside, and the guard is new after it. -/
theorem finishShutdown_gives (alone : F.EndsAlone)
    (settled : b.guard.gateTaken = false → b.guard = {}) (outside : b.guard.heldBy me = false) :
    Gives (RunBy b me) (finishShutdown F) (fun _ => HasBridge { b with
      phase := .uninitialized
      isolate := none
      guard := {} }) := by
  unfold finishShutdown
  refine Triple.bind (exclusively_gives (fun b => ?_) settled outside) fun _ =>
    Triple.bind (HasBridge.call alone.stop) fun _ => HasBridge.update _
  refine Triple.bind Triple.asked fun isolate => Triple.bind (HasBridge.update _) fun _ => ?_
  cases isolate with
  | none => exact Triple.pure fun _ h => h
  | some i => exact HasBridge.call (alone.shutdownIsolate i)

/-- A shutdown that ends a session from outside leaves a bridge renewed. -/
theorem shutdown_renewed (alone : F.EndsAlone) {s u : State P} (settled : GateState.Settled s)
    (ended : shutdown F s = (.value (.ok true), u)) : u.bridge = s.bridge.renewed := by
  have finished : Gives (RunBy s.bridge s.thread) (shutdownWith F (clear F))
      (fun r t => r = .ok true → HasBridge { s.bridge.renewed with
        serviceUrl := s.bridge.serviceUrl } t) := by
    unfold shutdownWith
    refine Triple.bind beginShutdown_gives fun r => ?_
    split
    · refine Triple.of_pre fun t h => ?_
      obtain ⟨outside, h⟩ := h rfl
      refine Triple.of_imp (Triple.bind clear_gives fun _ => ?_) fun t' seen => seen ▸ h
      refine Triple.bind (finishShutdown_gives alone settled outside) fun _ => ?_
      exact Triple.pure fun _ h _ => h
    · rename_i other
      exact Triple.pure fun _ _ ok => (other ok).elim
  have emptied : Gives (RunBy s.bridge s.thread) (shutdown F)
      (fun r t => r = .ok true → HasBridge s.bridge.renewed t) := by
    unfold shutdown
    refine Triple.bind finished fun r => ?_
    split
    · refine Triple.bind (Triple.of_imp (HasBridge.update _) fun _ h => h rfl) fun _ => ?_
      exact Triple.pure fun _ h _ => h
    · rename_i other
      exact Triple.pure fun _ _ ok => (other ok).elim
  have here : ∀ t, t = s → RunBy s.bridge s.thread t := by
    rintro t rfl
    exact ⟨rfl, rfl⟩
  exact (emptied.of_imp here).of_value ended rfl

end Lifecycle

/-! ### What comes after -/

theorem HandleTable.HoldsSince.lasting (n : Nat) :
    Lasting fun (t : HandleTable P.Object) (_ : List (Happening P)) => t.HoldsSince n where
  handles step h := h.step step
  record _ h := h

/-- Nothing of before is left after these programs: unless they start a VM, no call goes into one
and each event has its default answer, and handles from before find nothing. -/
structure System.Forgets (F : Foreign P (Act P)) (u v : State P) : Prop where
  /-- The record has grown by what is new; if it has no start of a VM, it has no call into one. -/
  dormant : ∃ news, v.record = news ++ u.record ∧
    ((∀ config, .vmCall (.start config) ∉ news) →
      (∀ c, .vmCall c ∉ news) ∧
      ∀ depth thread k args,
        Dispatch.dispatch ((System.ofPrograms F).foreign depth) k args { v with thread := thread } =
          (.value k.default, { v with thread := thread }))
  stale : v.bridge.handles.issued < 2 ^ 63 - 1 → ∀ h, u.bridge.handles.WasIssued h →
    (v.bridge.handles.get h).1 = none

namespace System

/-- After a shutdown that ended a session from outside its isolate, the bridge is a new one but for
its counters and its chat sink. Another shutdown ends nothing, until a VM is started events have
their default answers without a call into it, and no handle from before ever finds an object.

The programs may have got anywhere before the shutdown, also into the middle of what foreign code
does: a program that halts there leaves the bridge as it is at that point. -/
theorem shutdown_resets (F : Foreign P (Act P)) (limit depth : Nat)
    (turns : List (ThreadId × Act P Unit)) {s u : State P} (new : s.bridge = {})
    (thread : ThreadId) (alone : ((ofPrograms F).foreign depth).EndsAlone)
    (ended : Lifecycle.shutdown ((ofPrograms F).foreign depth)
      { (ofPrograms F).runTurns limit turns s with thread := thread } = (.value (.ok true), u)) :
    u.bridge = ((ofPrograms F).runTurns limit turns s).bridge.renewed ∧
    (∀ thread, Lifecycle.shutdown ((ofPrograms F).foreign depth) { u with thread := thread } =
      (.value (.ok false), { u with thread := thread })) ∧
    ∀ limit later, Forgets F u ((ofPrograms F).runTurns limit later u) := by
  have settled :
      GateState.Settled { (ofPrograms F).runTurns limit turns s with thread := thread } :=
    GateState.runTurns_settled F limit turns (by rw [new])
  have renewed := Lifecycle.shutdown_renewed alone settled ended
  have sleeps (thread : ThreadId) : Dormant u.record { u with thread := thread } := by
    refine Dormant.self ?_ ?_
    · rw [renewed]
      rfl
    · rw [renewed]
      rfl
  refine ⟨renewed, fun thread => (sleeps thread).shutdown _, fun limit later => ⟨?_, ?_⟩⟩
  · rcases SleepsSince.runTurns F limit later (.inl (sleeps u.thread)) with dormant | started
    · obtain ⟨news, record, silent⟩ := dormant.2.2
      refine ⟨news, record, fun _ => ⟨silent, fun depth thread k args => ?_⟩⟩
      exact (dormant.onThread thread).dispatch _ k args
    · obtain ⟨news, record, config, called⟩ := started
      exact ⟨news, record, fun none => (none config called).elim⟩
  · intro small h old
    have empty : u.bridge.handles.HoldsSince u.bridge.handles.issued := by
      rw [renewed]
      exact ⟨Nat.le_refl _, nofun⟩
    have held := (HandleTable.HoldsSince.lasting u.bridge.handles.issued).runTurns F limit later
      (s := u) empty
    exact held.get_eq_none small old

end System

/-! ### A session of the plain world -/

namespace Plain

theorem idle_endsAlone : ((System.ofPrograms idle).foreign 1).EndsAlone where
  shutdownIsolate _ _ := rfl
  stop _ := rfl

/-- A session in which an object was made ends. -/
theorem session_ends : ∃ u,
    Lifecycle.shutdown ((System.ofPrograms idle).foreign 1)
      { (System.ofPrograms idle).runTurns 2 [(0, launching), (0, creation)] start with
        thread := 1 } = (.value (.ok true), u) := by
  obtain ⟨image, launched⟩ := launching_runs
  rw [System.runTurns_cons (s := start) launched]
  exact ⟨_, rfl⟩

end Plain

namespace System

theorem shutdown_resets_plain :
    let S := ofPrograms Plain.idle
    let before := S.runTurns 2 [(0, Plain.launching), (0, Plain.creation)] Plain.start
    Plain.start.bridge = {} ∧ (S.foreign 1).EndsAlone ∧ ∃ u,
      Lifecycle.shutdown (S.foreign 1) { before with thread := 1 } = (.value (.ok true), u) ∧
        u.bridge = before.bridge.renewed ∧
        (∀ thread, Lifecycle.shutdown (S.foreign 1) { u with thread := thread } =
          (.value (.ok false), { u with thread := thread })) ∧
        ∀ limit later, Forgets Plain.idle u (S.runTurns limit later u) := by
  obtain ⟨u, ended⟩ := Plain.session_ends
  exact ⟨rfl, Plain.idle_endsAlone, u, ended,
    shutdown_resets Plain.idle 2 1 _ rfl 1 Plain.idle_endsAlone ended⟩

end System
end HostBridge
