import HostBridge.Proofs.SessionContract
import HostBridge.Proofs.Standing

/-!
The session from any standing. A launch goes from one session to the next, a shutdown ends the one
that runs, and neither does anything to a session that is being started or that is held.
-/
namespace HostBridge

open Exec VmEvent

variable {P : Platform} {α : Type}

namespace RespectsStandings

variable {F : Foreign P (Exec P)} (R : RespectsStandings F) {v : Stance P}
include R

/-! ### Start -/

/-- The entry point and the first drain run in the standing of a start. -/
theorem runEntryPoint_at (i : P.Isolate) (name : String) (phase : v.phase = .initializing)
    (guard : v.guard = {})
    (lawful : ∀ r block m, EntryEnds i name r block → m <+: block → IsLawful (v.trace ++ m)) :
    Triple (At v) (Lifecycle.runEntryPoint F i name)
      (fun r => On fun u => ∃ block, EntryEnds i name r block ∧ u = v.grow block)
      (fun _ => False) Lawful := by
  have atStart {m : List (VmEvent P)} {x : Exec P (Except VmError Unit)}
      (h : IsLawful (v.trace ++ m))
      (hx : ∀ σ : Standing P, Triple (On σ.Holds) x (fun _ => On σ.Holds) (fun _ => False) Lawful) :
      Triple (At (v.grow m)) x (fun _ => At (v.grow m)) (fun _ => False) Lawful :=
    (hx (.starting (v.grow m))).conseq (fun s hs => ⟨⟨phase, guard, h⟩, hs⟩) (fun _ _ hs => hs.2)
      (fun _ h => h) fun _ h => h
  have finish (r : Except VmError Unit) (inner : List (VmEvent P))
      (h : EntryEnds i name r (entry i inner)) :
      Triple (At (v.grow (.inl (.enterIsolate i) :: .inr .done :: .inl .enterScope :: inner))) (do
          F.vm.callExitScope
          F.vm.callExitIsolate
          return r : Exec P (Except VmError Unit))
        (fun r => On fun u => ∃ block, EntryEnds i name r block ∧ u = v.grow block)
        (fun _ => False) Lawful := by
    refine Triple.bind (On.call_after (R.exitScope _ ?_)) fun _ => ?_
    · exact lawful r _ _ h ⟨[.inl .exitIsolate], by simp [entry]⟩
    refine Triple.bind (On.call_after (R.exitIsolate _ ?_)) fun _ => ?_
    · exact lawful r _ _ h ⟨[], by simp [entry]⟩
    exact Triple.pure fun s hs => ⟨_, h, by simpa [On, entry] using hs⟩
  have done := lawful (.ok ()) (entrySucceeds i name)
  unfold Lifecycle.runEntryPoint
  refine Triple.bind (On.tryCall_at (R.enterIsolate i _ (done _ rfl ⟨_, rfl⟩))) fun r => ?_
  cases r with
  | error e => exact Triple.pure fun s hs => ⟨_, EntryFails.refused e, hs⟩
  | ok _ =>
    refine Triple.bind (On.call_after (R.enterScope _ (done _ rfl ⟨_, rfl⟩))) fun _ => ?_
    refine Triple.bind (On.tryCall_after (atStart (done _ rfl ⟨_, rfl⟩) (R.entryPoint name)))
      fun r => ?_
    cases r with
    | error e => exact finish (.error e) [.inl (.entryPoint name), .inr (.failed e)] (.raised e)
    | ok _ =>
      refine Triple.bind (On.tryCall_after (atStart (done _ rfl ⟨_, rfl⟩) R.drain)) fun r => ?_
      cases r with
      | error e =>
        exact finish (.error e) [.inl (.entryPoint name), .inr .done, .inl .drain, .inr (.failed e)]
          (.undrained e)
      | ok _ =>
        exact finish (.ok ()) [.inl (.entryPoint name), .inr .done, .inl .drain, .inr .done] rfl

/-- What the VM was asked for when a start is over, by the result. -/
def BootEnds (config : Config) (image : Image) (l : List (VmEvent P)) :
    Except VmError P.Isolate → Prop
  | .ok i => l = load config image i ++ entrySucceeds i config.entryPoint
  | .error _ => IsSession l

theorem boot_at (image : Image) (config : Config) (phase : v.phase = .initializing)
    (guard : v.guard = {}) (before : AreSessions v.trace) :
    Triple (At v) (Lifecycle.boot F image config)
      (fun r => On fun u => ∃ l, BootEnds config image l r ∧ u = v.grow l)
      (fun _ => False) Lawful := by
  unfold Lifecycle.boot
  refine Triple.bind (On.tryCall_at (R.start config _ ?_)) fun r => ?_
  · exact before.isLawful_append (.startFailed config .startFailed) ⟨_, rfl⟩
  cases r with
  | error e => exact Triple.pure fun s hs => ⟨_, .startFailed config e, hs⟩
  | ok _ =>
    refine Triple.bind (On.tryCall_after (R.loadImage image _ ?_)) fun r => ?_
    · exact before.isLawful_append (.loadFailed config image .startFailed) ⟨_, rfl⟩
    cases r with
    | error e =>
      refine Triple.bind (On.call_after (R.stop _ ?_)) fun _ => ?_
      · exact before.isLawful_append (.loadFailed config image e) (List.prefix_refl _)
      exact Triple.pure fun s hs => ⟨_, .loadFailed config image e, hs⟩
    | ok i =>
      have entered := R.runEntryPoint_at (v := v.grow (load config image i)) i config.entryPoint
        phase guard fun r block m h hm => before.isLawful_entry h hm
      simp only [Stance.grow_grow] at entered
      refine Triple.bind entered fun r => On.of_exists fun block => On.of_and fun h => ?_
      cases r with
      | ok _ => exact Triple.pure fun s hs => ⟨_, congrArg (load config image i ++ ·) h, hs⟩
      | error e =>
        have ended := IsSession.entryFailed config image i h
        refine Triple.bind (On.call_after (R.shutdownIsolate i _ ?_)) fun _ => ?_
        · exact before.isLawful_append ended ⟨[.inl .stop], by simp [unload]⟩
        refine Triple.bind (On.call_after (R.stop _ ?_)) fun _ => ?_
        · exact before.isLawful_append ended ⟨[], by simp [unload]⟩
        exact Triple.pure fun s hs => ⟨_, ended, by simpa [On, unload] using hs⟩

omit R in
theorem inert (σ : Standing P) : Inert (On σ.Holds) Lawful := On.inert fun _ h => h.isLawful

/-- A start from any standing; one that is refused changes nothing. -/
theorem start_keeps (image : Image) (config : Config) (σ : Standing P) :
    Keeps (On σ.Holds) Lawful (Lifecycle.start F image config) := by
  let J : State P → Prop := On fun v =>
    σ = .calm ∧ v.phase = .initializing ∧ v.guard = {} ∧ AreSessions v.trace
  refine start_keeps_of_booted (J := J) (inert σ).toDetached (fun s h fresh => ?_) ?_
  · obtain ⟨calm, guard, before⟩ := h.of_uninitialized fresh
    exact ⟨calm, rfl, guard, before⟩
  refine On.of_at fun v ⟨calm, phase, guard, before⟩ => ?_
  subst calm
  refine (R.boot_at image config phase guard before).of_noPanic.weaken ?_
  rintro r s ⟨l, h, hs⟩
  have held : s.bridge.guard = {} := (congrArg Stance.guard hs).trans guard
  have told : s.vmHistory = v.trace ++ l := congrArg Stance.trace hs
  cases r with
  | ok i =>
    refine ⟨held, .inr ⟨rfl, i, rfl, v.trace, before, config, image, [], by simp, ?_⟩⟩
    rw [List.flatten_nil, List.append_nil]
    exact told.trans (congrArg (v.trace ++ ·) h)
  | error e =>
    have after : AreSessions s.vmHistory := told.symm ▸ before.append h
    exact ⟨held, .inl ⟨rfl, after⟩⟩

theorem launchWith_keeps (path : Path) (config : Config) (σ : Standing P) :
    Keeps (On σ.Holds) Lawful (Lifecycle.launchWith F path config) :=
  launchWith_keeps_of_start (fun _ h => h) (fun image config => R.start_keeps image config σ) path
    config

theorem launch_keeps (path : Path) (σ : Standing P) :
    Keeps (On σ.Holds) Lawful (Lifecycle.launch F path) :=
  launch_keeps_of_launchWith (inert σ).toDetached
    (fun path config => R.launchWith_keeps path config σ) path

/-! ### End -/

omit R in
/-- A free gate is taken for the time of a computation. -/
theorem exclusively_at {x : Exec P Unit} {w : Stance P} {H : State P → Prop} (free : v.guard = {})
    (hx : Triple (At { v with guard := v.guard.takeGate }) x (fun _ => At w) (fun _ => False) H) :
    Triple (At v) (Isolate.exclusively x) (fun _ => At { w with guard := w.guard.freeGate })
      (fun _ => False) H := by
  unfold Isolate.exclusively
  apply On.thread_guard
  rw [free, if_neg (by simp [Guard.heldBy]), if_neg (by simp)]
  refine Triple.bind (On.update (fun v => { v with guard := v.guard.takeGate }) fun _ => rfl)
    fun _ => Triple.ensure hx (fun _ => ?_) fun _ h => h.elim
  exact On.update (fun v => { v with guard := v.guard.freeGate }) fun _ => rfl

theorem finishShutdown_at {i : P.Isolate} (guard : v.guard = {}) (isolate : v.isolate = some i)
    (awaits : AwaitsBurst i v.trace) :
    Triple (At v) (Lifecycle.finishShutdown F) (fun _ => On Standing.calm.Holds) (fun _ => False)
      Lawful := by
  have lawful {m : List (VmEvent P)} (h : m <+: unload i) : IsLawful (v.trace ++ m) :=
    awaits.append_unload.isLawful.earlier ((List.prefix_append_right_inj _).mpr h)
  let u : Stance P := { v with isolate := none }
  unfold Lifecycle.finishShutdown
  refine Triple.bind (exclusively_at (w := { u with guard := u.guard.takeGate }.grow
    [.inl (.shutdownIsolate i)]) guard ?_) fun _ => ?_
  · refine Triple.bind (On.reads Stance.isolate fun _ => rfl) fun found => Triple.of_and ?_
    rintro rfl
    refine Triple.bind (On.update (fun v => { v with isolate := none }) fun _ => rfl) fun _ => ?_
    rw [isolate]
    exact On.call_at (R.shutdownIsolate i _ (lawful ⟨[.inl .stop], rfl⟩))
  · refine Triple.bind (On.call_at (R.stop _ ?_)) fun _ => ?_
    · simpa [u, unload] using lawful (List.prefix_refl (unload i))
    have ended : AreSessions ((v.trace ++ [.inl (.shutdownIsolate i)]) ++ [.inl .stop]) := by
      simpa [unload] using awaits.append_unload
    refine (On.update (fun v => { v with phase := .uninitialized }) fun _ => rfl).conseq
      (fun _ h => h) (fun _ _ => On.intro ?_) (fun _ h => h) fun _ h => h
    exact ⟨by simp [u, guard, Guard.takeGate, Guard.freeGate], .inl ⟨rfl, ended⟩⟩

/-- A shutdown from any standing. Only a session that runs with nobody inside is shut down; from
inside or without a session nothing changes. -/
theorem shutdown_keeps (σ : Standing P) : Keeps (On σ.Holds) Lawful (Lifecycle.shutdown F) := by
  let J : State P → Prop := On fun v =>
    σ = .calm ∧ v.guard = {} ∧ ∃ i, v.isolate = some i ∧ AwaitsBurst i v.trace
  refine shutdown_keeps_of_ended (J := J) (inert σ).toDetached (fun _ h => h)
    (fun s h running free => h.of_free running free) ?_
  refine On.of_at fun v ⟨calm, guard, i, isolate, awaits⟩ => ?_
  subst calm
  have withstands : Withstands F (At v) Lawful :=
    (On.inert fun _ => On.intro awaits.isLawful).withstands F
  exact Triple.bind (withstands.clear_keeps (fun _ h => h) fun _ h => h) fun _ =>
    (R.finishShutdown_at guard isolate awaits).of_noPanic

end RespectsStandings
end HostBridge
