import HostBridge.Proofs.Footing
import HostBridge.Proofs.SessionContract

/-!
The session from any footing. A launch from outside that does not come back leaves the session where
it was cut short, and so does a shutdown; from anywhere else neither changes anything.
-/
namespace HostBridge

open Exec VmEvent

variable {P : Platform} {α : Type}

/-! ### Bringing up -/

/-- A session is brought up, with the VM led to `w`. -/
def Stance.IsBooting (w : VmView P) (v : Stance P) : Prop :=
  v.phase = .initializing ∧ v.guard = {} ∧ v.view = w

/-- An isolate is entered at the start of a program only. -/
def VmView.IsBoot (w : VmView P) : Prop := w.current ≠ none → w.starting = true

namespace Stance

variable {v : Stance P} {w : VmView P}

theorem IsBooting.isBetween (h : v.IsBooting w) (boot : w.IsBoot) : v.IsBetween := by
  obtain ⟨phase, guard, rfl⟩ := h
  exact .inl ⟨phase, guard, boot⟩

theorem IsBooting.outside (h : v.IsBooting w) (boot : w.IsBoot) : Footing.outside.Holds v :=
  ⟨h.2.1, .inl (h.isBetween boot)⟩

theorem IsBooting.grow (h : v.IsBooting w) (e : VmEvent P) : (v.grow [e]).IsBooting (w.step e) := by
  obtain ⟨phase, guard, rfl⟩ := h
  exact ⟨phase, guard, v.view_cons e⟩

end Stance

namespace KeepsFooting

variable {w : VmView P}

/-- Whatever the VM does while a session is brought up, it changes nothing. -/
theorem booting {x : Exec P α} (hx : KeepsFooting x) (boot : w.IsBoot) :
    Triple (On (Stance.IsBooting w)) x (fun _ => On (Stance.IsBooting w))
      (On Footing.outside.Holds) Momentary := by
  apply On.of_at
  intro v hv
  have still : v.IsStill := .inl (hv.isBetween boot)
  apply (hx (.still v)).conseq
  · intro _ hs
    exact ⟨still, hs⟩
  · rintro _ s ⟨-, hs⟩
    exact On.intro hv hs
  · rintro s ⟨-, hs⟩
    exact On.intro (hv.outside boot) hs
  · exact fun _ h => h

theorem booting_tryCall {c : VmCall P} {x : Exec P (Except VmError α)} {done : α → VmReturn P}
    (hx : KeepsFooting x) (boot : (w.step (.inl c)).IsBoot) :
    Triple (On (Stance.IsBooting w)) (Vm.tryCall c x done)
      (fun r => On (Stance.IsBooting ((w.step (.inl c)).step (.inr (match r with
        | .ok a => done a
        | .error e => .failed e)))))
      (On Footing.outside.Holds) Momentary := by
  apply On.tryCall (fun v hv => hv.grow _) (hx.booting boot)
  · exact fun a v hv => hv.grow _
  · exact fun e v hv => hv.grow _

theorem booting_call {c : VmCall P} {x : Exec P Unit} (hx : KeepsFooting x)
    (boot : (w.step (.inl c)).IsBoot) :
    Triple (On (Stance.IsBooting w)) (do
      Exec.record (.vmCall c)
      x) (fun _ => On (Stance.IsBooting (w.step (.inl c)))) (On Footing.outside.Holds) Momentary :=
  Triple.bind (On.record fun _ hv => hv.grow _) fun _ => hx.booting boot

end KeepsFooting

namespace KeepsFootings

variable {F : Foreign P (Exec P)} (K : KeepsFootings F)
include K

theorem exitIsolate_booting {w : VmView P} :
    Triple (On (Stance.IsBooting w)) F.vm.callExitIsolate (fun _ => On (Stance.IsBooting {}))
      (On Footing.outside.Holds) Momentary := by
  apply On.of_at
  intro v hv
  have left : (v.grow [.inl .exitIsolate]).IsBooting {} := hv.grow _
  have pause := (left.outside nofun).isPause
  apply (On.call_at (K.exitIsolate _ pause)).of_noPanic.weaken
  exact fun _ _ => On.intro left

/-- After the entry point the isolate is left; a program whose isolate was not entered is still at
its start. -/
theorem runEntryPoint_booting (i : P.Isolate) (name : String) :
    Triple (On (Stance.IsBooting { starting := true })) (Lifecycle.runEntryPoint F i name)
      (fun r => match r with
        | .ok _ => On (Stance.IsBooting {})
        | .error _ => On fun v => ∃ b, v.IsBooting { starting := b })
      (On Footing.outside.Holds) Momentary := by
  have finish (r : Except VmError Unit) :
      Triple (On (Stance.IsBooting { current := some i, starting := true })) (do
          F.vm.callExitScope
          F.vm.callExitIsolate
          return r : Exec P (Except VmError Unit))
        (fun r => match r with
          | .ok _ => On (Stance.IsBooting {})
          | .error _ => On fun v => ∃ b, v.IsBooting { starting := b })
        (On Footing.outside.Holds) Momentary := by
    apply Triple.bind (K.exitScope.booting_call fun _ => rfl)
    intro _
    apply Triple.bind K.exitIsolate_booting
    intro _
    apply Triple.pure
    intro s hs
    cases r with
    | ok _ => exact hs
    | error e => exact ⟨false, hs⟩
  unfold Lifecycle.runEntryPoint
  apply Triple.bind ((K.enterIsolate i).booting_tryCall fun _ => rfl)
  intro r
  cases r with
  | error e => exact Triple.pure fun s hs => ⟨true, hs⟩
  | ok _ =>
    apply Triple.bind (K.enterScope.booting_call fun _ => rfl)
    intro _
    apply Triple.bind ((K.entryPoint name).booting_tryCall fun _ => rfl)
    intro r
    cases r with
    | error e => exact finish (.error e)
    | ok _ =>
      apply Triple.bind (K.drain.booting_tryCall fun _ => rfl)
      intro r
      cases r with
      | error e => exact finish (.error e)
      | ok _ => exact finish (.ok ())

/-- Before the first call and after the last one no isolate is entered. -/
theorem boot_booting (image : Image) (config : Config) (asked : Option P.Isolate) :
    Triple (On (Stance.IsBooting { asked := asked })) (Lifecycle.boot F image config)
      (fun _ => On (Stance.IsBooting {})) (On Footing.outside.Holds) Momentary := by
  unfold Lifecycle.boot
  apply Triple.bind ((K.start config).booting_tryCall (absurd rfl))
  intro r
  cases r with
  | error e => exact Triple.pure fun _ h => h
  | ok _ =>
    apply Triple.bind ((K.loadImage image).booting_tryCall (absurd rfl))
    intro r
    cases r with
    | error e =>
      apply Triple.bind (K.stop.booting_call (absurd rfl))
      exact fun _ => Triple.pure fun _ h => h
    | ok i =>
      apply Triple.bind (K.runEntryPoint_booting i config.entryPoint)
      intro r
      cases r with
      | ok _ => exact Triple.pure fun _ h => h
      | error e =>
        apply On.of_exists
        intro b
        apply Triple.bind ((K.shutdownIsolate i).booting_call (absurd rfl))
        intro _
        apply Triple.bind (K.stop.booting_call (absurd rfl))
        exact fun _ => Triple.pure fun _ h => h

omit K in
theorem inert (σ : Footing P) : Inert (On σ.Holds) Momentary := On.inert fun _ h => h.isPause

theorem start_keeps (image : Image) (config : Config) :
    KeepsFooting (Lifecycle.start F image config) := by
  intro σ
  let J : State P → Prop := On fun v => σ = .outside ∧ ∃ asked, v.IsBooting { asked := asked }
  refine start_keeps_of_booted (J := J) (inert σ).toDetached (fun s h fresh => ?_) ?_
  · obtain ⟨rfl, guard, left, begun⟩ := h.of_uninitialized fresh
    refine ⟨rfl, s.stance.view.asked, rfl, guard, ?_⟩
    change s.stance.view = _
    rcases hview : s.stance.view with ⟨asked, current, starting⟩
    rw [hview] at left begun
    cases left
    cases begun
    rfl
  · refine On.of_and fun outside => On.of_exists fun asked => ?_
    subst outside
    refine (K.boot_booting image config asked).weaken fun r s ⟨_, guard, view⟩ => ?_
    have left : s.stance.view.IsLeft := by
      rw [view]
      exact ⟨rfl, rfl⟩
    cases r with
    | ok i => exact ⟨guard, .inr ⟨left, .inr ⟨rfl, i, rfl⟩⟩⟩
    | error e => exact ⟨guard, .inr ⟨left, .inl rfl⟩⟩

theorem launchWith_keeps (path : Path) (config : Config) :
    KeepsFooting (Lifecycle.launchWith F path config) :=
  fun σ => launchWith_keeps_of_start (fun _ h => h)
    (fun image config => K.start_keeps image config σ) path config

theorem launch_keeps (path : Path) : KeepsFooting (Lifecycle.launch F path) :=
  fun σ => launch_keeps_of_launchWith (inert σ).toDetached
    (fun path config => K.launchWith_keeps path config σ) path

end KeepsFootings

/-! ### Taking down -/

/-- A session is taken down, and its isolate is left. -/
def Stance.IsClosing (g : Guard) (v : Stance P) : Prop :=
  v.phase = .shuttingDown ∧ v.guard = g ∧ v.view.IsLeft

namespace Stance

variable {v : Stance P} {g : Guard}

theorem IsClosing.isBetween (h : v.IsClosing g) : v.IsBetween := .inr ⟨h.1, h.2.2.1⟩

theorem IsClosing.outside (h : v.IsClosing {}) : Footing.outside.Holds v :=
  ⟨h.2.1, .inl h.isBetween⟩

theorem IsClosing.grow (h : v.IsClosing g) {c : VmCall P}
    (leaves : ∀ w : VmView P, w.IsLeft → (w.step (.inl c)).IsLeft) :
    (v.grow [.inl c]).IsClosing g := by
  obtain ⟨phase, guard, left⟩ := h
  refine ⟨phase, guard, ?_⟩
  rw [view_cons]
  exact leaves _ left

end Stance

theorem KeepsFooting.closing_call {g : Guard} {c : VmCall P} {x : Exec P Unit}
    (hx : KeepsFooting x) (leaves : ∀ w : VmView P, w.IsLeft → (w.step (.inl c)).IsLeft) :
    Keeps (On (Stance.IsClosing g)) Momentary (do
      Exec.record (.vmCall c)
      x) := by
  apply Keeps.bind (On.record fun _ hv => hv.grow leaves)
  intro _
  apply On.of_at
  intro v hv
  have still : v.IsStill := .inl hv.isBetween
  apply (hx (.still v)).conseq
  · intro _ hs
    exact ⟨still, hs⟩
  · rintro _ s ⟨-, hs⟩
    exact On.intro hv hs
  · rintro s ⟨-, hs⟩
    exact On.intro hv hs
  · exact fun _ h => h

namespace KeepsFootings

variable {F : Foreign P (Exec P)} (K : KeepsFootings F)
include K

omit K in
/-- What keeps a closing keeps it with all others kept out. -/
theorem exclusively_closing {x : Exec P Unit}
    (hx : Keeps (On (Stance.IsClosing { gateTaken := true })) Momentary x) :
    Keeps (On (Stance.IsClosing {})) Momentary (Isolate.exclusively x) := by
  have freed : Triple (On (Stance.IsClosing (P := P) { gateTaken := true }))
      (Isolate.setGuard .freeGate) (fun _ => On (Stance.IsClosing {})) (On (Stance.IsClosing {}))
      Momentary := by
    apply Triple.update
    rintro s ⟨phase, guard, left⟩
    exact ⟨phase, congrArg Guard.freeGate guard, left⟩
  unfold Isolate.exclusively
  apply Keeps.gets.bind
  intro me
  refine Triple.bind Triple.asks fun g => Triple.of_pre ?_
  rintro s ⟨hg, hs⟩
  have free : g = {} := hg.trans hs.2.1
  rw [free, if_neg (by simp [Guard.heldBy]), if_neg (by simp)]
  have taken : Triple (· = s) (Isolate.setGuard .takeGate)
      (fun _ => On (Stance.IsClosing { gateTaken := true })) (On (Stance.IsClosing {}))
      Momentary := by
    apply Triple.update
    rintro _ rfl
    exact ⟨hs.1, congrArg Guard.takeGate hs.2.1, hs.2.2⟩
  apply taken.bind
  intro _
  exact Triple.ensure hx (fun _ => freed) freed

theorem finishShutdown_closing : Triple (On (Stance.IsClosing {})) (Lifecycle.finishShutdown F)
    (fun _ => On Footing.outside.Holds) (On Footing.outside.Holds) Momentary := by
  have finished : Triple (On (Stance.IsClosing {})) (Lifecycle.finishShutdown F)
      (fun _ => On Footing.outside.Holds) (On (Stance.IsClosing {})) Momentary := by
    unfold Lifecycle.finishShutdown
    apply Triple.bind (exclusively_closing ?_)
    · intro _
      apply Triple.bind (K.stop.closing_call (c := .stop) fun _ left => left)
      intro _
      apply Triple.update
      rintro s ⟨-, guard, left⟩
      exact ⟨guard, .inr ⟨left, .inl rfl⟩⟩
    · apply Keeps.bridge.bind
      intro isolate
      apply Keeps.bind
      · exact Keeps.modify fun _ h => h
      · intro _
        cases isolate with
        | none => exact Keeps.pure
        | some i => exact (K.shutdownIsolate i).closing_call fun _ left => ⟨left.1, rfl⟩
  exact finished.conseq (fun _ h => h) (fun _ _ h => h) (fun _ h => h.outside) fun _ h => h

omit K in
/-- A shutdown does not wait for the gate in vain. -/
theorem finishShutdown_gated {v : Stance P} (gate : v.guard = { gateTaken := true })
    (pause : v.IsPause) :
    Triple (At v) (Lifecycle.finishShutdown F) (fun _ _ => False) (fun _ => False) Momentary := by
  have stuck {x : Exec P Unit} : Triple (At v) (Isolate.exclusively x) (fun _ _ => False)
      (fun _ => False) Momentary := by
    unfold Isolate.exclusively
    apply On.thread_guard
    rw [gate, if_neg (by simp [Guard.heldBy]), if_pos rfl]
    exact Triple.halt fun _ => On.intro pause
  unfold Lifecycle.finishShutdown
  apply Triple.bind stuck
  exact fun _ _ h => h.elim

/-- A shutdown from any footing. From inside and without a session it changes nothing; while the
gate is taken it does not come back. -/
theorem shutdown_keeps : KeepsFooting (Lifecycle.shutdown F) := by
  intro σ
  let J : State P → Prop := On fun v =>
    (σ = .outside ∧ v.IsClosing {}) ∨ (v.guard = { gateTaken := true } ∧ v.IsPause)
  refine shutdown_keeps_of_ended (J := J) (inert σ).toDetached (fun _ h => h)
    (fun s h running unheld => ?_) ?_
  · rcases h.of_running running with ⟨outside, guard, left, -⟩ | ⟨-, gate, left⟩ |
      ⟨thread, i, depth, -, inside⟩
    · exact .inl ⟨outside, rfl, guard, left⟩
    · exact .inr ⟨gate, .of_left left nofun⟩
    · exact absurd inside.held (ne_true_of_eq_false unheld)
  · refine On.of_at fun v begun => ?_
    have cleared {E : State P → Prop} (pause : v.IsPause) :
        Triple (At v) (Lifecycle.clear F) (fun _ => At v) E Momentary :=
      ((On.inert fun _ => On.intro pause).withstands F).clear_keeps (fun _ h => h) fun _ h => h
    rcases begun with ⟨rfl, closing⟩ | ⟨gate, pause⟩
    · refine Triple.bind (cleared closing.outside.isPause) fun _ => ?_
      exact K.finishShutdown_closing.of_imp fun _ => On.intro closing
    · refine Triple.bind (cleared pause) fun _ => ?_
      exact (finishShutdown_gated gate pause).of_noPanic.weaken fun _ _ h => h.elim

end KeepsFootings
end HostBridge
