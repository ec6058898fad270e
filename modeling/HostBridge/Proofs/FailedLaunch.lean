import HostBridge.Proofs.LeavesBridge
import HostBridge.Proofs.Plain
import HostBridge.Proofs.Programs

/-!
What a launch that fails leaves behind. The VM is brought down again and the phase goes back, but
the handlers and the objects are those that the program left when it failed. A launch that fails
before its program runs leaves the bridge as it was.
-/
namespace HostBridge

open Exec

variable {P : Platform} {α : Type}

/-! ### The program of a start -/

namespace Lifecycle

variable (F : Foreign P (Exec P))

/-- The program of an image: its entry point, and then the microtasks that it left. -/
def program (name : String) : Exec P (Except VmError Unit) := do
  match ← F.vm.callEntryPoint name with
  | .error e => return .error e
  | .ok () => F.vm.callDrain

/-- A start up to the point where the program runs, or to its end if it fails before. -/
def approach (image : Image) (config : Config) : Exec P (Except VmError P.Isolate) := do
  match ← F.vm.callStart config with
  | .error e => return .error e
  | .ok () =>
    match ← F.vm.callLoadImage image with
    | .error e => do
      F.vm.callStop
      return .error e
    | .ok i =>
      match ← F.vm.callEnterIsolate i with
      | .error e => do
        F.vm.callShutdownIsolate i
        F.vm.callStop
        return .error e
      | .ok () => do
        F.vm.callEnterScope
        return .ok i

/-- A start from the point where the program runs. -/
def proceed (config : Config) (i : P.Isolate) : Exec P (Except VmError P.Isolate) := do
  let r ← program F config.entryPoint
  F.vm.callExitScope
  F.vm.callExitIsolate
  match r with
  | .error e => do
    F.vm.callShutdownIsolate i
    F.vm.callStop
    return .error e
  | .ok () => return .ok i

theorem boot_eq (image : Image) (config : Config) :
    boot F image config = (do
      match ← approach F image config with
      | .error e => return .error e
      | .ok i => proceed F config i) := by
  unfold boot approach proceed program runEntryPoint
  simp only [bind_assoc]
  refine bind_congr fun r => ?_
  cases r with
  | error e => rfl
  | ok _ =>
    simp only [bind_assoc]
    refine bind_congr fun r => ?_
    cases r with
    | error e => simp only [bind_assoc, pure_bind]
    | ok i =>
      simp only [bind_assoc]
      refine bind_congr fun r => ?_
      cases r with
      | error e => simp only [bind_assoc, pure_bind]
      | ok _ =>
        simp only [bind_assoc, pure_bind]
        refine bind_congr fun _ => bind_congr fun r => ?_
        cases r with
        | error e => simp only [bind_assoc, pure_bind]
        | ok _ =>
          refine (bind_assoc _ _ _).trans (bind_congr fun r => ?_)
          refine (bind_assoc _ _ _).trans (bind_congr fun _ => ?_)
          refine (bind_assoc _ _ _).trans (bind_congr fun _ => ?_)
          exact pure_bind _ _

end Lifecycle

/-! ### Holdings -/

/-- The handlers and the objects of a bridge are the same in both states. -/
def SameHoldings (s t : State P) : Prop :=
  t.bridge.handlers = s.bridge.handlers ∧ t.bridge.handles.entries = s.bridge.handles.entries

namespace Lifecycle

variable (F : Foreign P (Exec P))

/-- The program that a start reaches, if it reaches it, leaves the handlers and the objects as it
finds them. -/
def ProgramLeavesNothing (image : Image) (config : Config) (s : State P) : Prop :=
  ∀ i t, approach F image config s = (.value (.ok i), t) →
    SameHoldings t (program F config.entryPoint t).2

variable {F} (alone : F.VmLeavesBridge)
include alone

theorem approach_alone (image : Image) (config : Config) (b : Bridge P) :
    Gives (HasBridge b) (approach F image config) (fun _ => HasBridge b) := by
  unfold approach
  refine (HasBridge.tryCall (alone.start config)).bind fun r => ?_
  cases r with
  | error e => exact Triple.pure fun _ h => h
  | ok _ =>
    refine (HasBridge.tryCall (alone.loadImage image)).bind fun r => ?_
    cases r with
    | error e => exact (HasBridge.call alone.stop).bind fun _ => Triple.pure fun _ h => h
    | ok i =>
      refine (HasBridge.tryCall (alone.enterIsolate i)).bind fun r => ?_
      cases r with
      | error e =>
        exact (HasBridge.call (alone.shutdownIsolate i)).bind fun _ =>
          (HasBridge.call alone.stop).bind fun _ => Triple.pure fun _ h => h
      | ok _ => exact (HasBridge.call alone.enterScope).bind fun _ => Triple.pure fun _ h => h

/-- After the program the bridge stays as the program left it. -/
theorem proceed_alone (config : Config) (i : P.Isolate) (t : State P) :
    Gives (· = t) (proceed F config i)
      (fun _ => HasBridge (program F config.entryPoint t).2.bridge) := by
  have ran : Gives (· = t) (program F config.entryPoint)
      (fun _ => HasBridge (program F config.entryPoint t).2.bridge) :=
    Triple.self.weaken fun r u h => by rw [h]; rfl
  unfold proceed
  refine ran.bind fun r => (HasBridge.call alone.exitScope).bind fun _ =>
    (HasBridge.call alone.exitIsolate).bind fun _ => ?_
  cases r with
  | error e =>
    exact (HasBridge.call (alone.shutdownIsolate i)).bind fun _ =>
      (HasBridge.call alone.stop).bind fun _ => Triple.pure fun _ h => h
  | ok _ => exact Triple.pure fun _ h => h

/-- A start keeps the handlers and the objects exactly if its program does. -/
theorem boot_holdings (image : Image) (config : Config) (s : State P) :
    Gives (· = s) (boot F image config)
      (fun _ t => SameHoldings s t ↔ ProgramLeavesNothing F image config s) := by
  rw [boot_eq]
  have alike : Gives (· = s) (approach F image config) (fun _ => HasBridge s.bridge) :=
    (approach_alone alone image config s.bridge).of_imp fun _ h => congrArg State.bridge h
  refine (alike.and Triple.self).bind fun r => Triple.of_pre fun t ⟨bridge, reached⟩ => ?_
  cases r with
  | error e =>
    refine Triple.pure ?_
    rintro _ rfl
    refine iff_of_true ⟨congrArg Bridge.handlers bridge, ?_⟩ fun i u h => ?_
    · exact congrArg (·.handles.entries) bridge
    · rw [reached] at h
      cases h
  | ok i =>
    refine (proceed_alone alone config i t).weaken fun r u h => ?_
    have left : SameHoldings s u ↔ SameHoldings t (program F config.entryPoint t).2 := by
      unfold SameHoldings
      rw [h, bridge]
    refine left.trans ⟨fun same j u' e => ?_, fun nothing => nothing i t reached⟩
    rw [reached] at e
    cases e
    exact same

/-- The state in which a start brings the VM up. -/
def initializing (s : State P) : State P :=
  { s with bridge := { s.bridge with phase := .initializing } }

/-- Nothing runs any more, and the holdings of `s` are there in `t` just if nothing is left
behind. -/
def RolledBack (nothingLeft : Prop) (s t : State P) : Prop :=
  t.bridge.phase = .uninitialized ∧ (SameHoldings s t ↔ nothingLeft)

/-- A start that fails goes back to the phase before it, with what its program left. -/
theorem start_holdings (image : Image) (config : Config) {s : State P}
    (fresh : s.bridge.phase = .uninitialized) :
    Gives (· = s) (start F image config)
      (fun r t => ∀ e, r = .error e →
        RolledBack (ProgramLeavesNothing F image config (initializing s)) s t) := by
  unfold start phase
  refine Triple.bind Triple.asks fun now => Triple.of_pre fun u ⟨hnow, hu⟩ => ?_
  subst hu
  rw [hnow, if_neg (by simpa using fresh)]
  have begun : Gives (· = u) (setPhase .initializing) (fun _ => (· = initializing u)) :=
    Triple.update fun _ h => by rw [h]; rfl
  refine begun.bind fun _ => (boot_holdings alone image config (initializing u)).bind fun r => ?_
  cases r with
  | ok i => exact Triple.any.bind fun _ => Triple.pure fun _ _ _ => nofun
  | error e =>
    have stopped : Gives
        (fun t => SameHoldings (initializing u) t ↔
          ProgramLeavesNothing F image config (initializing u)) (setPhase .uninitialized)
        (fun _ => RolledBack (ProgramLeavesNothing F image config (initializing u)) u) :=
      Triple.update fun _ h => ⟨rfl, h⟩
    have noted : Gives (RolledBack (ProgramLeavesNothing F image config (initializing u)) u)
        (Exec.report (.bootFailed e))
        (fun _ => RolledBack (ProgramLeavesNothing F image config (initializing u)) u) :=
      Triple.record fun _ h => h
    exact stopped.bind fun _ => noted.bind fun _ => Triple.pure fun _ h _ _ => h

omit alone

variable (F)

/-- The program that a launch with given settings reaches, if it reaches it, leaves nothing. -/
def LaunchWithLeavesNothing (path : Path) (config : Config) (s : State P) : Prop :=
  ∀ image, Image.open? s.files path config = .ok image →
    ProgramLeavesNothing F image config (initializing s)

/-- The state after the report of a port that is none. -/
def warned (s : State P) : State P :=
  match Config.badPort? s.environment with
  | some value => { s with record := .diagnostic (.badPort value) :: s.record }
  | none => s

/-- The same for a launch that looks for its settings. -/
def LaunchLeavesNothing (path : Path) (s : State P) : Prop :=
  ∀ config, Config.load s.files s.environment path = .ok config →
    LaunchWithLeavesNothing F path config (warned s)

variable {F}
include alone

theorem launchWith_holdings (path : Path) (config : Config) {s : State P}
    (fresh : s.bridge.phase = .uninitialized) :
    Gives (· = s) (launchWith F path config)
      (fun r t => ∀ e, r = .error e →
        RolledBack (LaunchWithLeavesNothing F path config s) s t) := by
  unfold launchWith
  refine Triple.bind Triple.asks fun files => Triple.of_pre fun u ⟨hfiles, hu⟩ => ?_
  subst hu hfiles
  split
  case h_1 cause unreadable =>
    refine Triple.pure fun t ht e _ => ?_
    subst ht
    refine ⟨fresh, iff_of_true ⟨rfl, rfl⟩ fun image opened => ?_⟩
    rw [unreadable] at opened
    cases opened
  case h_2 image opened =>
    have exactly : LaunchWithLeavesNothing F path config u ↔
        ProgramLeavesNothing F image config (initializing u) := by
      refine ⟨fun h => h image opened, fun h image' opened' => ?_⟩
      rw [opened] at opened'
      cases opened'
      exact h
    rw [exactly]
    refine (start_holdings alone image config fresh).bind fun r => ?_
    cases r with
    | error e => exact Triple.pure fun _ h e' _ => h e rfl
    | ok _ => exact Triple.any.bind fun _ => Triple.pure fun _ _ _ => nofun

theorem launch_holdings (path : Path) {s : State P} (fresh : s.bridge.phase = .uninitialized) :
    Gives (· = s) (launch F path)
      (fun r t => ∀ e, r = .error e → RolledBack (LaunchLeavesNothing F path s) s t) := by
  unfold launch phase
  refine Triple.bind Triple.asks fun now => Triple.of_pre fun u ⟨hnow, hu⟩ => ?_
  subst hu
  rw [hnow, if_neg (by simpa using fresh)]
  refine Triple.bind Triple.asks fun environment => Triple.of_pre fun v ⟨henvironment, hv⟩ => ?_
  subst hv henvironment
  refine Triple.bind Triple.asks fun files => Triple.of_pre fun w ⟨hfiles, hw⟩ => ?_
  subst hw hfiles
  split
  case h_1 cause unread =>
    refine Triple.pure fun t ht e _ => ?_
    subst ht
    refine ⟨fresh, iff_of_true ⟨rfl, rfl⟩ fun config loaded => ?_⟩
    rw [unread] at loaded
    cases loaded
  case h_2 config loaded =>
    have exactly : LaunchLeavesNothing F path w ↔
        LaunchWithLeavesNothing F path config (warned w) := by
      refine ⟨fun h => h config loaded, fun h config' loaded' => ?_⟩
      rw [loaded] at loaded'
      cases loaded'
      exact h
    rw [exactly]
    unfold warned
    cases Config.badPort? w.environment with
    | none => exact launchWith_holdings alone path config fresh
    | some value =>
      have noted : Gives (· = w) (Exec.report (.badPort value))
          (fun _ => (· = { w with record := .diagnostic (.badPort value) :: w.record })) :=
        Triple.record fun _ h => by rw [h]
      exact noted.bind fun _ => launchWith_holdings alone path config fresh

omit alone

/-- A launch that fails leaves nothing running. It leaves the handlers and the objects of the
bridge as they were exactly if its program, as far as it came to run, did so itself. -/
theorem failedLaunch_holdings (alone : F.VmLeavesBridge) {s t : State P} {e : BridgeError}
    (fresh : s.bridge.phase = .uninitialized) :
    (∀ path config, launchWith F path config s = (.value (.error e), t) →
      t.bridge.phase = .uninitialized ∧
        (SameHoldings s t ↔ LaunchWithLeavesNothing F path config s)) ∧
    (∀ path, launch F path s = (.value (.error e), t) →
      t.bridge.phase = .uninitialized ∧ (SameHoldings s t ↔ LaunchLeavesNothing F path s)) :=
  ⟨fun path config failed => (launchWith_holdings alone path config fresh).of_value failed e rfl,
    fun path failed => (launch_holdings alone path fresh).of_value failed e rfl⟩

end Lifecycle

/-! ### A program that is careless -/

namespace Plain

/-- The plain world around the careless program. -/
def careless : Foreign platform (Exec platform) :=
  (System.ofPrograms (foreign carelessMain)).foreign 2

theorem careless_vmLeavesBridge : careless.VmLeavesBridge where
  start _ _ := rfl
  loadImage _ _ := rfl
  enterIsolate _ _ := rfl
  exitIsolate _ := rfl
  enterScope _ := rfl
  exitScope _ := rfl
  shutdownIsolate _ _ := rfl
  stop _ := rfl

theorem careless_fails : ∃ e t,
    Lifecycle.launchWith careless imagePath {} start = (.value (.error e), t) ∧
      t.bridge.handlers .tick = some () ∧ t.bridge.handles.count = 1 := by
  obtain ⟨image, opened⟩ := image_opens {}
  have failed : ∃ e t, Lifecycle.start careless image {} start = (.value (.error e), t) ∧
      t.bridge.handlers .tick = some () ∧ t.bridge.handles.count = 1 := ⟨_, _, rfl, rfl, rfl⟩
  obtain ⟨e, t, failed, held⟩ := failed
  refine ⟨e, t, ?_, held⟩
  unfold Lifecycle.launchWith
  rw [Exec.run_bind, Exec.run_gets]
  simp only [opened]
  rw [Exec.run_bind, failed]
  rfl

end Plain

namespace Lifecycle

theorem failedLaunch_holdings_careless :
    Plain.careless.VmLeavesBridge ∧ Plain.start.bridge.phase = .uninitialized ∧ ∃ e t,
      launchWith Plain.careless Plain.imagePath {} Plain.start = (.value (.error e), t) ∧
        t.bridge.phase = .uninitialized ∧ (SameHoldings Plain.start t ↔
          LaunchWithLeavesNothing Plain.careless Plain.imagePath {} Plain.start) := by
  obtain ⟨e, t, failed, -⟩ := Plain.careless_fails
  exact ⟨Plain.careless_vmLeavesBridge, rfl, e, t, failed,
    (failedLaunch_holdings Plain.careless_vmLeavesBridge rfl).1 Plain.imagePath {} failed⟩

/-- The handler and the object of a program that failed are there after the launch. -/
theorem failedLaunch_leaves_holdings :
    Plain.start.bridge.phase = .uninitialized ∧ ∃ e t,
      launchWith Plain.careless Plain.imagePath {} Plain.start = (.value (.error e), t) ∧
        t.bridge.handlers ≠ Plain.start.bridge.handlers ∧
        t.bridge.handles.entries ≠ Plain.start.bridge.handles.entries := by
  obtain ⟨e, t, failed, installed, held⟩ := Plain.careless_fails
  refine ⟨rfl, e, t, failed, fun same => ?_, fun same => ?_⟩
  · rw [same] at installed
    cases installed
  · unfold HandleTable.count at held
    rw [same] at held
    cases held

end Lifecycle
end HostBridge
