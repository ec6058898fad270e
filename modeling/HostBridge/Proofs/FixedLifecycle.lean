import HostBridge.Proofs.Alike
import HostBridge.Proofs.Dormancy
import HostBridge.Proofs.FailedLaunch
import HostBridge.Proofs.FootingEntry
import HostBridge.Proofs.FootingSession
import HostBridge.Proofs.VmDiscipline

/-!
The lifecycle of a session from inside. While code of the program runs, at its start or in a burst,
a launch and a shutdown are refused and leave the state as it is, whatever the code is and however
deep it nests. A launch that is refused before the VM is started leaves the bridge as it was too.
-/
namespace HostBridge

open Exec VmEvent

variable {P : Platform} {α : Type}

/-! ### Launches that do not come to the VM -/

theorem Started.earlier {r r' record : List (Happening P)} {t : HandleTable P.Object}
    (h : Started r' t record) (grown : r <:+ r') : Started r t record := by
  obtain ⟨news, rfl, config, started⟩ := h
  obtain ⟨between, rfl⟩ := grown
  exact ⟨news ++ between, by simp, config, List.mem_append_left between started⟩

namespace Lifecycle

/-- Why a launch with given settings fails before it asks the VM for anything. -/
def launchWithRefusal? (path : Path) (config : Config) (s : State P) : Option BridgeError :=
  match Image.open? s.files path config with
  | .error e => some (.vm (.imageUnreadable path e))
  | .ok _ =>
    if s.bridge.phase = .uninitialized then none else some (.invalidState s.bridge.phase)

section
variable (G : Foreign P (Exec P)) {s : State P} {path : Path} {config : Config} {e : BridgeError}

theorem start_refused (image : Image) (begun : s.bridge.phase ≠ .uninitialized) :
    start G image config s = (.value (.error (.invalidState s.bridge.phase)), s) := by
  simp [start, phase, Exec.bridge, run_bind, begun]

theorem launchWith_refused (h : launchWithRefusal? path config s = some e) :
    launchWith G path config s = (.value (.error e), s) := by
  unfold launchWithRefusal? at h
  unfold launchWith
  rw [run_bind, run_gets]
  dsimp only
  cases opened : Image.open? s.files path config with
  | error cause =>
    rw [opened] at h
    cases h
    rfl
  | ok image =>
    rw [opened] at h
    by_cases begun : s.bridge.phase = .uninitialized
    · simp [begun] at h
    · simp only [begun, if_false, Option.some.injEq] at h
      subst h
      dsimp only
      rw [run_bind, start_refused G image begun]
      rfl

theorem launch_refused (begun : s.bridge.phase ≠ .uninitialized) :
    launch G path s = (.value (.error (.invalidState s.bridge.phase)), s) := by
  simp [launch, phase, Exec.bridge, run_bind, begun]

/-- A launch whose settings are found goes on with them. -/
theorem launch_eq (fresh : s.bridge.phase = .uninitialized)
    (loaded : Config.load s.files s.environment path = .ok config) :
    launch G path s = launchWith G path config (warned s) := by
  unfold launch phase
  rw [Exec.bridge, run_bind, run_gets]
  dsimp only
  rw [if_neg (not_not.mpr fresh), run_bind, run_gets]
  dsimp only
  rw [run_bind, run_gets]
  simp only [loaded, warned]
  cases Config.badPort? s.environment with
  | none => rfl
  | some value => rfl

end

theorem suffix_warned (s : State P) : s.record <:+ (warned s).record := by
  unfold warned
  split
  · exact List.suffix_cons _ s.record
  · exact List.suffix_rfl

section
variable {G : Foreign P (Exec P)} (code : ∀ r, SessionBlind G (Of (Started r)) (Of (Started r)))
include code

/-- A launch that is not refused starts the VM, however it ends. -/
theorem launchWith_starts {path : Path} {config : Config} {s : State P}
    (h : launchWithRefusal? path config s = none) :
    Of (Started s.record) (launchWith G path config s).2 := by
  unfold launchWithRefusal? at h
  cases opened : Image.open? s.files path config with
  | error cause =>
    rw [opened] at h
    cases h
  | ok image =>
    have fresh : s.bridge.phase = .uninitialized := by
      rw [opened] at h
      by_contra begun
      simp [begun] at h
    have set : Triple (· = s) (setPhase .initializing) (fun _ t => s.record <:+ t.record)
        (Of (Started s.record)) (Of (Started s.record)) := by
      apply Triple.update
      rintro _ rfl
      exact List.suffix_rfl
    have started : Triple (· = s) (start G image config) (fun _ => Of (Started s.record))
        (Of (Started s.record)) (Of (Started s.record)) := by
      unfold start phase
      refine Triple.bind Triple.asks fun now => Triple.of_pre fun t ⟨same, ht⟩ => ?_
      subst ht same
      rw [if_neg (not_not.mpr fresh)]
      refine set.bind fun _ => (Started.of_boot (code _) image config).bind fun r => ?_
      cases r with
      | ok i => exact Keeps.bind (Keeps.modify fun _ h => h) fun _ => Keeps.pure
      | error e =>
        refine Keeps.bind (Keeps.modify fun _ h => h) fun _ => Keeps.bind ?_ fun _ => Keeps.pure
        exact Keeps.record fun _ => (Started.lasting _).record _
    apply Triple.ends
    unfold launchWith
    refine Triple.bind Triple.asks fun files => Triple.of_pre fun t ⟨same, ht⟩ => ?_
    subst ht same
    rw [opened]
    refine started.bind fun r => ?_
    cases r with
    | error e => exact Keeps.pure
    | ok _ => exact Keeps.bind (Keeps.modify fun _ h => h) fun _ => Keeps.pure

/-- A launch that does not come to the VM leaves everything as it was. -/
theorem launchWith_unchanged (path : Path) (config : Config) (s : State P) :
    (launchWith G path config s).2 = s ∨ Of (Started s.record) (launchWith G path config s).2 := by
  cases h : launchWithRefusal? path config s with
  | none => exact .inr (launchWith_starts code h)
  | some e =>
    rw [launchWith_refused G h]
    exact .inl rfl

/-- The same for a launch that looks for its settings, but for the report of a port that is none. -/
theorem launch_unchanged (path : Path) (s : State P) :
    (launch G path s).2 = s ∨ (launch G path s).2 = warned s ∨
      Of (Started s.record) (launch G path s).2 := by
  by_cases fresh : s.bridge.phase = .uninitialized
  · cases loaded : Config.load s.files s.environment path with
    | error e =>
      left
      simp [launch, phase, Exec.bridge, run_bind, fresh, loaded]
    | ok config =>
      rw [launch_eq G fresh loaded]
      rcases launchWith_unchanged code path config (warned s) with same | started
      · exact .inr (.inl same)
      · exact .inr (.inr (started.earlier (suffix_warned s)))
  · rw [launch_refused G fresh]
    exact .inl rfl

end

end Lifecycle

/-! ### Where code of the program runs -/

namespace State

/-- Code of the program runs at its start: the isolate is entered, and the program was not left
since its image was loaded. -/
def InStart (s : State P) : Prop :=
  (view s.vmHistory).current ≠ none ∧ (view s.vmHistory).starting = true

/-- Code of the program runs in a burst: the isolate is entered for an event or for a drain. -/
def InBurst (s : State P) : Prop :=
  (view s.vmHistory).current ≠ none ∧ (view s.vmHistory).starting = false

/-- The session runs, and the thread holds its isolate, which the VM has entered. -/
structure HoldsIsolate (s : State P) (i : P.Isolate) : Prop where
  phase : s.bridge.phase = .running
  isolate : s.bridge.isolate = some i
  held : s.bridge.guard.heldBy s.thread = true
  entered : (view s.vmHistory).current = some i

/-- The lifecycle stands where it stood. -/
structure SameLifecycle (s t : State P) : Prop where
  phase : t.bridge.phase = s.bridge.phase
  isolate : t.bridge.isolate = s.bridge.isolate
  guard : t.bridge.guard = s.bridge.guard
  thread : t.thread = s.thread
  view : view t.vmHistory = view s.vmHistory

/-- A launch is refused, and so is a shutdown; nothing changes but for the report of the latter. -/
structure Refuses (s : State P) : Prop where
  launch : ∀ G path, ∃ e, Lifecycle.launch G path s = (.value (.error e), s)
  launchWith : ∀ G path config, ∃ e, Lifecycle.launchWith G path config s = (.value (.error e), s)
  shutdownInStart : s.InStart → ∀ G, Lifecycle.shutdown G s = (.value (.ok false), s)
  shutdownInBurst : s.InBurst → ∀ G, Lifecycle.shutdown G s =
    (.value (.error .shutdownFromIsolate),
      { s with record := .diagnostic .shutdownInside :: s.record })

theorem SameLifecycle.holdsIsolate {s t : State P} {i : P.Isolate} (h : s.SameLifecycle t)
    (holds : s.HoldsIsolate i) : t.HoldsIsolate i := by
  constructor
  · exact h.phase.trans holds.phase
  · exact h.isolate.trans holds.isolate
  · rw [h.guard, h.thread]
    exact holds.held
  · rw [h.view]
    exact holds.entered

end State

namespace Lifecycle

theorem launchWith_refused_begun (G : Foreign P (Exec P)) {s : State P}
    (begun : s.bridge.phase ≠ .uninitialized) (path : Path) (config : Config) :
    ∃ e, launchWith G path config s = (.value (.error e), s) := by
  cases h : launchWithRefusal? path config s with
  | some e => exact ⟨e, launchWith_refused G h⟩
  | none =>
    unfold launchWithRefusal? at h
    split at h <;> simp [begun] at h

theorem shutdown_starting (G : Foreign P (Exec P)) {s : State P}
    (phase : s.bridge.phase = .initializing) (guard : s.bridge.guard = {}) :
    shutdown G s = (.value (.ok false), s) := by
  simp [shutdown, shutdownWith, beginShutdown, isRunning, Lifecycle.phase, Exec.bridge, run_bind,
    guard, phase, Guard.heldBy]

theorem shutdown_held (G : Foreign P (Exec P)) {s : State P}
    (held : s.bridge.guard.heldBy s.thread = true) :
    shutdown G s = (.value (.error .shutdownFromIsolate),
      { s with record := .diagnostic .shutdownInside :: s.record }) := by
  have refused : beginShutdown s = (.value (.error .shutdownFromIsolate),
      { s with record := .diagnostic .shutdownInside :: s.record }) := by
    unfold beginShutdown
    simp only [Exec.bridge, run_bind, run_gets, held, if_true]
    rfl
  unfold shutdown shutdownWith
  rw [run_bind, run_bind, refused]
  rfl

end Lifecycle

namespace Footing

theorem inside_holds {thread : ThreadId} {i : P.Isolate} {depth : Nat} {s : State P}
    (h : (inside thread i depth).Holds s.stance) : s.HoldsIsolate i ∧ s.InBurst := by
  have led : view s.vmHistory = { current := some i } := h.view
  refine ⟨⟨h.phase, h.isolate, h.held, ?_⟩, ?_, ?_⟩ <;> rw [led]
  nofun

/-- While an isolate is entered, a bridge is at a start, where it is still, or inside. -/
theorem Holds.of_entered {σ : Footing P} {s : State P} (h : σ.Holds s.stance)
    (entered : (view s.vmHistory).current ≠ none) :
    (s.InStart ∧ s.bridge.phase = .initializing ∧ s.bridge.guard = {} ∧ s.stance.IsStill) ∨
      ∃ thread i depth, (inside thread i depth).Holds s.stance := by
  have of_between (between : s.stance.IsBetween) : s.InStart ∧ s.bridge.phase = .initializing ∧
      s.bridge.guard = {} ∧ s.stance.IsStill := by
    rcases between with ⟨phase, guard, starting⟩ | ⟨-, left⟩
    · exact ⟨⟨entered, starting entered⟩, phase, guard, .inl (.inl ⟨phase, guard, starting⟩)⟩
    · exact absurd left entered
  cases σ with
  | outside =>
    rcases h.2 with between | ⟨left, -⟩
    · exact .inl (of_between between)
    · exact absurd left.1 entered
  | still u =>
    rcases h with ⟨between | ⟨-, -, left, -⟩, rfl⟩
    · exact .inl (of_between between)
    · exact absurd left entered
  | inside thread i depth => exact .inr ⟨thread, i, depth, h⟩

/-- While an isolate is entered, no launch and no shutdown comes through. -/
theorem Holds.refuses {σ : Footing P} {s : State P} (h : σ.Holds s.stance)
    (entered : (view s.vmHistory).current ≠ none) : s.Refuses := by
  have begun : s.bridge.phase ≠ .uninitialized := by
    rcases h.of_entered entered with ⟨-, phase, -⟩ | ⟨thread, i, depth, inside⟩
    · rw [phase]
      decide
    · rw [(inside_holds inside).1.phase]
      decide
  constructor
  · intro G path
    exact ⟨_, Lifecycle.launch_refused G begun⟩
  · intro G path config
    exact Lifecycle.launchWith_refused_begun G begun path config
  · intro starts G
    rcases h.of_entered entered with ⟨-, phase, guard, -⟩ | ⟨thread, i, depth, inside⟩
    · exact Lifecycle.shutdown_starting G phase guard
    · cases (inside_holds inside).2.2.symm.trans starts.2
  · intro bursts G
    rcases h.of_entered entered with ⟨starts, -⟩ | ⟨thread, i, depth, inside⟩
    · cases bursts.2.symm.trans starts.2
    · exact Lifecycle.shutdown_held G (inside_holds inside).1.held

end Footing

theorem State.SameLifecycle.of_stance {s t : State P} (h : t.stance = s.stance) :
    s.SameLifecycle t :=
  ⟨congrArg Stance.phase h, congrArg Stance.isolate h, congrArg Stance.guard h,
    congrArg Stance.thread h, congrArg Stance.view h⟩

theorem State.SameLifecycle.of_inside {thread : ThreadId} {i : P.Isolate} {depth : Nat}
    {s t : State P} (hs : s.stance.IsInside thread i depth)
    (ht : t.stance.IsInside thread i depth) : s.SameLifecycle t :=
  ⟨ht.phase.trans hs.phase.symm, ht.isolate.trans hs.isolate.symm, ht.guard.trans hs.guard.symm,
    ht.thread.trans hs.thread.symm, ht.view.trans hs.view.symm⟩

/-- What keeps every footing keeps the lifecycle while an isolate is entered. -/
theorem KeepsFooting.sameLifecycle {x : Exec P α} (hx : KeepsFooting x) {σ : Footing P}
    {s : State P} (h : σ.Holds s.stance) (entered : (view s.vmHistory).current ≠ none) :
    Triple (· = s) x (fun _ => s.SameLifecycle) s.SameLifecycle fun _ => True := by
  rcases h.of_entered entered with ⟨-, -, -, still⟩ | ⟨thread, i, depth, inside⟩
  · apply (hx (.still s.stance)).conseq
    · rintro _ rfl
      exact ⟨still, rfl⟩
    · exact fun _ t ht => .of_stance ht.2
    · exact fun t ht => .of_stance ht.2
    · exact fun _ _ => trivial
  · apply (hx (.inside thread i depth)).conseq
    · rintro _ rfl
      exact inside
    · exact fun _ t ht => .of_inside inside ht
    · exact fun t ht => .of_inside inside ht
    · exact fun _ _ => trivial

/-- Footings are kept by all that a program may ask of a session. -/
theorem KeepsFootings.kept {F : Foreign P (Exec P)} (K : KeepsFootings F) :
    SessionKept F (fun σ : Footing P => On σ.Holds) Momentary where
  launch σ path := K.launch_keeps path σ
  launchWith σ path config := K.launchWith_keeps path config σ
  tick σ := K.tick_keeps σ
  dispatch σ k args := K.dispatch_keeps k args σ
  shutdown σ := K.shutdown_keeps σ

/-! ### Where handlers run -/

/-- The same foreign code with other handlers. -/
def Foreign.withHandlers {m : Type → Type} (F : Foreign P m)
    (X : P.Handler → (k : EventKind) → Args k.params → m k.Output) : Foreign P m :=
  { F with handler := X }

namespace KeepsFootings

variable {F : Foreign P (Exec P)} (K : KeepsFootings F)
  {X : P.Handler → (k : EventKind) → Args k.params → Exec P k.Output}
  (alike : ∀ h k args (s : State P), s.InBurst → (∃ i, s.HoldsIsolate i) →
    X h k args s = F.handler h k args s)
include K alike

/-- What is delivered inside is handled inside, so other handlers that do the same there do the
same. -/
theorem deliver_agree (k : EventKind) (args : Args k.params) (thread : ThreadId) (i : P.Isolate)
    (depth : Nat) :
    Agree (On (Footing.inside thread i depth).Holds)
      (Dispatch.deliver (F.withHandlers X) k args) (Dispatch.deliver F k args) := by
  have handled : Agree (On (Footing.inside thread i depth).Holds)
      (Dispatch.callHandler (F.withHandlers X) k args) (Dispatch.callHandler F k args) := by
    unfold Dispatch.callHandler
    apply Agree.bind Agree.refl Triple.asked
    intro handlers
    cases handlers k with
    | none => exact Agree.refl
    | some h =>
      have recorded : Gives (On (Footing.inside thread i depth).Holds)
          (Exec.record (.handlerCall k h args))
          (fun _ => On (Footing.inside thread i depth).Holds) :=
        Triple.record fun _ => On.recordOther rfl
      apply Agree.bind Agree.refl recorded
      intro _ s hs
      have inside := Footing.inside_holds hs
      exact alike h k args s inside.2 ⟨i, inside.1⟩
  have opened := (call_inside (c := .enterScope) K.enterScope (fun _ => rfl) thread i depth).gives
  unfold Dispatch.deliver Isolate.inScope
  apply Agree.bind_same
  apply Agree.bind Agree.refl opened
  intro _
  apply Agree.bind_same
  apply Agree.bind_same
  exact handled.attempt

/-- An event is delivered inside, from wherever it comes while a session runs. -/
theorem within_agree (k : EventKind) (args : Args k.params) {σ : Footing P} {v : Stance P}
    (hv : σ.Holds v) (running : v.phase = .running) :
    Agree (At v)
      (Isolate.within (F.withHandlers X) fun _ => Dispatch.deliver (F.withHandlers X) k args)
      (Isolate.within F fun _ => Dispatch.deliver F k args) := by
  have delivered (thread : ThreadId) (i : P.Isolate) (depth : Nat) (e : Entry) :
      Agree (On (Footing.inside thread i depth).Holds)
        ((Dispatch.deliver (F.withHandlers X) k args).ensure (Isolate.leave F e) >>=
          fun x => pure (some x))
        ((Dispatch.deliver F k args).ensure (Isolate.leave F e) >>= fun x => pure (some x)) :=
    (K.deliver_agree alike k args thread i depth).ensure.bind_same
  unfold Isolate.within
  rcases hv.of_running running with ⟨-, guard, left, i, isolate⟩ | ⟨-, gate, -⟩ |
    ⟨thread, i, depth, rfl, -⟩
  · apply Agree.bind Agree.refl (K.enter_outside running guard left isolate).gives
    intro r
    cases r with
    | none => exact Agree.refl
    | some e =>
      rintro s ⟨-, hs⟩
      exact delivered v.thread i 0 e s hs
  · apply Agree.bind Agree.refl (enter_gated gate hv.isPause).gives
    exact fun _ _ h => h.elim
  · apply Agree.bind Agree.refl (enter_inside.of_imp fun _ => On.intro hv)
    intro r
    cases r with
    | none => exact fun _ h => h.elim
    | some e =>
      rintro s ⟨-, hs⟩
      exact delivered thread i (depth + 1) e s hs

theorem dispatch_agree (k : EventKind) (args : Args k.params) {σ : Footing P} {v : Stance P}
    (hv : σ.Holds v) :
    Agree (At v) (Dispatch.dispatch (F.withHandlers X) k args) (Dispatch.dispatch F k args) := by
  have asked : Gives (At v) Lifecycle.isRunning
      (fun b s => b = decide (v.phase = .running) ∧ At v s) := On.isRunning
  unfold Dispatch.dispatch
  apply Agree.bind Agree.refl asked
  rintro running s ⟨rfl, hs⟩
  split
  case isTrue running =>
    exact (K.within_agree alike k args hv (by simpa using running)).bind_same s hs
  case isFalse => rfl

end KeepsFootings

/-- Without a session every event has its default answer. -/
theorem Dispatch.dispatch_idle (G : Foreign P (Exec P)) {s : State P} {k : EventKind}
    {args : Args k.params} (idle : s.bridge.phase ≠ .running) :
    dispatch G k args s = (.value k.default, s) := by
  have asked : Lifecycle.isRunning s = (.value false, s) := by
    simp [Lifecycle.isRunning, Lifecycle.phase, Exec.bridge, run_bind, idle]
  unfold dispatch
  rw [run_bind, asked]
  rfl

/-! ### Programs -/

namespace System

variable {F : Foreign P (Act P)} {limit : Nat}

theorem exec_leavesStance {S : System P} {a : Act P α} (quiet : a.IsQuiet) :
    LeavesStance (S.exec limit a) := by
  intro v pause
  cases limit with
  | zero => exact Triple.halt fun _ => On.intro pause
  | succ limit => exact quiet.run_at _

section
variable (quiet : F.vm.exitIsolate.IsQuiet)
  (run : ∀ {β : Type} (b : Act P β), KeepsFooting ((ofPrograms F).exec limit b))
include quiet run

theorem keepsFootings : KeepsFootings ((ofPrograms F).foreign limit) where
  start _ := run _
  loadImage _ := run _
  enterIsolate _ := run _
  exitIsolate := exec_leavesStance quiet
  enterScope := run _
  exitScope := run _
  entryPoint _ := run _
  drain := run _
  shutdownIsolate _ := run _
  stop := run _
  handler _ _ _ := run _

omit quiet in
theorem footing_unaware (σ : Footing P) :
    Unaware ((ofPrograms F).foreign limit) (On σ.Holds) Momentary :=
  On.unaware (fun _ h => h.isPause) fun b => run b σ

def footingContract :
    ProgramContract ((ofPrograms F).foreign limit) (fun σ : Footing P => On σ.Holds) Momentary :=
  .ofPrograms (.ofUnaware (footing_unaware run)) (fun _ => On.programBlind)
    (keepsFootings quiet run).kept
    (fun σ => (footing_unaware run σ).clearMembers fun _ h => h) run

end

section
variable (quiet : F.vm.exitIsolate.IsQuiet)
include quiet

/-- Every program keeps every footing. -/
theorem exec_keepsFooting (limit : Nat) (a : Act P α) :
    KeepsFooting ((ofPrograms F).exec limit a) :=
  fun σ => exec_keeps (I := fun σ : Footing P => On σ.Holds) (fun _ _ h => h.isPause)
    (fun _ run => footingContract quiet fun b σ => run b σ) limit a σ

/-- A new bridge that was used is at some moment. -/
theorem runTurns_isMoment (limit : Nat) (turns : List (ThreadId × Act P Unit)) {s : State P}
    (new : s.bridge = {}) (unrecorded : s.record = []) :
    ((ofPrograms F).runTurns limit turns s).stance.IsMoment :=
  Stance.IsPause.isMoment <| runTurns_keeps (I := On Footing.outside.Holds) (fun _ h => h.isPause)
    (fun _ _ h => h) (fun a => exec_keepsFooting quiet limit a .outside) turns
    (Footing.outside_of_new new unrecorded)

/-- Handlers come to run nowhere but where a burst holds the isolate: others that do the same there
do the same. -/
theorem dispatch_withHandlers (depth : Nat)
    {X : P.Handler → (k : EventKind) → Args k.params → Exec P k.Output}
    (alike : ∀ h k args (u : State P), u.InBurst → (∃ i, u.HoldsIsolate i) →
      X h k args u = ((ofPrograms F).foreign depth).handler h k args u)
    {t : State P} (moment : t.stance.IsMoment)
    (settled : t.bridge.phase = .running → t.stance.IsSettled)
    (k : EventKind) (args : Args k.params) :
    Dispatch.dispatch (((ofPrograms F).foreign depth).withHandlers X) k args t =
      Dispatch.dispatch ((ofPrograms F).foreign depth) k args t := by
  by_cases running : t.bridge.phase = .running
  · obtain ⟨σ, h⟩ := moment (settled running)
    have K : KeepsFootings ((ofPrograms F).foreign depth) :=
      keepsFootings quiet fun b => exec_keepsFooting quiet depth b
    exact K.dispatch_agree alike k args h t rfl
  · rw [Dispatch.dispatch_idle _ running, Dispatch.dispatch_idle _ running]

/-- Whatever programs use a new bridge, at every moment: while an isolate is entered, launches and
shutdowns are refused and change nothing, and code that runs leaves the lifecycle as it is; in a
burst, and so whenever a handler runs, the session runs and the thread holds its isolate. A launch
that does not come to start the VM changes nothing, in whatever state.

The programs may have got anywhere, also into the middle of what foreign code does: a program that
halts there leaves the bridge as it is at that point. -/
theorem lifecycle_fixed (limit : Nat) (turns : List (ThreadId × Act P Unit)) {s : State P}
    (new : s.bridge = {}) (unrecorded : s.record = []) :
    let t := (ofPrograms F).runTurns limit turns s
    ((view t.vmHistory).current ≠ none → t.Refuses ∧ ∀ (depth : Nat) (α : Type) (a : Act P α),
      Triple (· = t) ((ofPrograms F).exec depth a) (fun _ => t.SameLifecycle) t.SameLifecycle
        fun _ => True) ∧
    (t.InBurst → ∃ i, t.HoldsIsolate i ∧ ∀ (depth : Nat) (α : Type) (a : Act P α),
      Triple (· = t) ((ofPrograms F).exec depth a) (fun _ => (State.HoldsIsolate · i))
        (State.HoldsIsolate · i) fun _ => True) ∧
    ((t.bridge.phase = .running → t.stance.IsSettled) → ∀ depth X,
      (∀ h k args (u : State P), u.InBurst → (∃ i, u.HoldsIsolate i) →
        X h k args u = ((ofPrograms F).foreign depth).handler h k args u) →
      ∀ k args, Dispatch.dispatch (((ofPrograms F).foreign depth).withHandlers X) k args t =
        Dispatch.dispatch ((ofPrograms F).foreign depth) k args t) ∧
    ∀ (depth : Nat) (path : Path) (u : State P),
      (∀ config v, (Lifecycle.launchWith ((ofPrograms F).foreign depth) path config u).2 = v →
        v = u ∨ Of (Started u.record) v) ∧
      (∀ v, (Lifecycle.launch ((ofPrograms F).foreign depth) path u).2 = v →
        v = u ∨ v = Lifecycle.warned u ∨ Of (Started u.record) v) := by
  have moment := runTurns_isMoment quiet limit turns new unrecorded
  refine ⟨fun entered => ?_, fun burst => ?_, fun settled depth X alike k args => ?_,
    fun depth path u => ⟨fun config v ended => ?_, fun v ended => ?_⟩⟩
  · obtain ⟨σ, h⟩ := moment (.inl entered)
    exact ⟨h.refuses entered,
      fun depth α a => (exec_keepsFooting quiet depth a).sameLifecycle h entered⟩
  · obtain ⟨σ, h⟩ := moment (.inl burst.1)
    rcases h.of_entered burst.1 with ⟨starts, -⟩ | ⟨thread, i, depth, inside⟩
    · cases burst.2.symm.trans starts.2
    · have holds := (Footing.inside_holds inside).1
      refine ⟨i, holds, fun depth α a => ?_⟩
      exact ((exec_keepsFooting quiet depth a).sameLifecycle h burst.1).conseq (fun _ h => h)
        (fun _ _ same => same.holdsIsolate holds) (fun _ same => same.holdsIsolate holds)
        fun _ h => h
  · exact dispatch_withHandlers quiet depth alike moment settled k args
  · subst ended
    exact Lifecycle.launchWith_unchanged (fun r => Started.session r F depth) path config u
  · subst ended
    exact Lifecycle.launch_unchanged (fun r => Started.session r F depth) path u

end

end System

/-! ### A handler that does not come back -/

namespace Plain

/-- The plain world with handlers that read where there is nothing. -/
def lost : Foreign platform (Act platform) :=
  handling fun _ k _ => (Act.op (.readBuffer 1)).bind fun _ => pure k.default

/-- A program that installs such a handler and calls for it. -/
def losing : Act platform Unit :=
  (Act.op (.setHandler .tick (some ()))).bind fun _ =>
    (Act.op (.dispatch .tick (Args.ofList _ []))).bind fun _ => pure ()

theorem losing_inBurst :
    ((System.ofPrograms lost).runTurns 2 [(0, launching), (0, losing)] start).InBurst := by
  obtain ⟨image, launched⟩ := handling_runs fun _ k _ => (Act.op (.readBuffer 1)).bind fun _ =>
    pure k.default
  unfold lost
  rw [System.runTurns_cons (s := start) launched]
  exact ⟨nofun, rfl⟩

end Plain

/-- In the middle of the handler nothing of the session can be changed. -/
theorem System.lifecycle_fixed_plain :
    let t :=
      (ofPrograms Plain.lost).runTurns 2 [(0, Plain.launching), (0, Plain.losing)] Plain.start
    Plain.lost.vm.exitIsolate.IsQuiet ∧ Plain.start.bridge = {} ∧ Plain.start.record = [] ∧
      t.InBurst ∧ t.Refuses ∧ ∃ i, t.HoldsIsolate i := by
  have quiet : Plain.lost.vm.exitIsolate.IsQuiet := trivial
  have burst := Plain.losing_inBurst
  have fixed := lifecycle_fixed quiet 2 [(0, Plain.launching), (0, Plain.losing)]
    (s := Plain.start) rfl rfl
  obtain ⟨i, holds, -⟩ := fixed.2.1 burst
  exact ⟨quiet, rfl, rfl, burst, (fixed.1 burst.1).1, i, holds⟩

end HostBridge
