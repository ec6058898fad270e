import HostBridge.Bridge.Dispatch
import HostBridge.Proofs.TandemCalls

/-!
Sessions in tandem. A relation that the VM and the handlers respect as well is respected by the ways
into the isolate, by the life of a session and by the delivery of events.
-/
namespace HostBridge

open Exec

variable {P : Platform} {α : Type}

/-- A relation that all foreign code respects. -/
structure ForeignSteady (F : Foreign P (Exec P)) (typeKnown : String → P.Class → Prop)
    (memberKnown : P.World → MemberKey → P.Member → Prop) (R : State P → State P → Prop) : Prop
    extends HostSteady F typeKnown memberKnown R where
  start : ∀ config, InStep R (F.vm.start config)
  loadImage : ∀ image, InStep R (F.vm.loadImage image)
  enterIsolate : ∀ i, InStep R (F.vm.enterIsolate i)
  exitIsolate : InStep R F.vm.exitIsolate
  enterScope : InStep R F.vm.enterScope
  exitScope : InStep R F.vm.exitScope
  entryPoint : ∀ name, InStep R (F.vm.entryPoint name)
  drain : InStep R F.vm.drain
  shutdownIsolate : ∀ i, InStep R (F.vm.shutdownIsolate i)
  stop : InStep R F.vm.stop
  handler : ∀ h k args, InStep R (F.handler h k args)
  sink : ∀ sink player text, InStep R (F.sink sink player text)
  extra : ∀ {β : Type} (o : P.Extra β), InStep R (F.extra o)

variable {F : Foreign P (Exec P)} {typeKnown : String → P.Class → Prop}
  {memberKnown : P.World → MemberKey → P.Member → Prop} {R : State P → State P → Prop}

namespace Steady

variable (steady : Steady F typeKnown memberKnown R)
include steady

/-! ### The session and the guard -/

theorem setPhase (p : Phase) : InStep R (Lifecycle.setPhase (P := P) p) :=
  steady.update fun s => .session p s.bridge.isolate s.bridge.guard s.bridge.serviceUrl

theorem setGuard (f : Guard → Guard) : InStep R (Isolate.setGuard (P := P) f) :=
  steady.update fun s => .session s.bridge.phase s.bridge.isolate (f s.bridge.guard)
    s.bridge.serviceUrl

theorem setServiceUrl (url : Option String) :
    InStep R (Exec.update fun b : Bridge P => { b with serviceUrl := url }) :=
  steady.update fun s => .session s.bridge.phase s.bridge.isolate s.bridge.guard url

theorem isRunning : InStep R (Lifecycle.isRunning (P := P)) := by
  unfold Lifecycle.isRunning
  exact steady.asksBridge.bind fun _ => InStep.pure

theorem thread : InStep R (Exec.gets fun s : State P => s.thread) :=
  steady.asks fun _ _ _ _ => rfl

/-- A call of the VM, with how it came back. -/
theorem tryCall {c : VmCall P} {x : Exec P (Except VmError α)} {done : α → VmReturn P}
    (hx : InStep R x) : InStep R (Vm.tryCall c x done) := by
  unfold Vm.tryCall
  apply (steady.log _).bind
  intro _
  apply hx.bind
  intro r
  exact (steady.log _).bind fun _ => InStep.pure

theorem exclusively {x : Exec P α} (hx : InStep R x) : InStep R (Isolate.exclusively x) := by
  unfold Isolate.exclusively
  apply steady.thread.bind
  intro me
  apply steady.asksBridge.bind
  intro g
  split
  · exact hx
  · split
    · exact Tandem.halt
    · exact (steady.setGuard _).bind fun _ => hx.ensure (steady.setGuard _)

theorem beginShutdown : InStep R (Lifecycle.beginShutdown (P := P)) := by
  unfold Lifecycle.beginShutdown
  apply steady.thread.bind
  intro me
  apply steady.asksBridge.bind
  intro g
  split
  · exact (steady.report _).bind fun _ => InStep.pure
  · apply steady.isRunning.bind
    intro running
    split
    · exact (steady.setPhase _).bind fun _ => InStep.pure
    · exact InStep.pure

theorem clear : InStep R (Lifecycle.clear F) := by
  unfold Lifecycle.clear
  apply (steady.update fun _ => .handlers _).bind
  intro _
  exact steady.clearMembers.discard.bind fun _ => steady.releaseAll.discard

end Steady

namespace ForeignSteady

variable (steady : ForeignSteady F typeKnown memberKnown R)
include steady

/-! ### Start -/

theorem callExitIsolate : InStep R F.vm.callExitIsolate :=
  (steady.log _).bind fun _ => steady.exitIsolate

theorem callEnterScope : InStep R F.vm.callEnterScope :=
  (steady.log _).bind fun _ => steady.enterScope

theorem callExitScope : InStep R F.vm.callExitScope :=
  (steady.log _).bind fun _ => steady.exitScope

theorem callStop : InStep R F.vm.callStop := (steady.log _).bind fun _ => steady.stop

theorem callDrain : InStep R F.vm.callDrain := steady.tryCall steady.drain

theorem callShutdownIsolate (i : P.Isolate) : InStep R (F.vm.callShutdownIsolate i) :=
  (steady.log _).bind fun _ => steady.shutdownIsolate i

theorem runEntryPoint (i : P.Isolate) (name : String) :
    InStep R (Lifecycle.runEntryPoint F i name) := by
  have finish (r : Except VmError Unit) : InStep R (do
      F.vm.callExitScope
      F.vm.callExitIsolate
      return r : Exec P (Except VmError Unit)) :=
    steady.callExitScope.bind fun _ => steady.callExitIsolate.bind fun _ => InStep.pure
  unfold Lifecycle.runEntryPoint
  apply (steady.tryCall (steady.enterIsolate i)).bind
  intro entered
  cases entered with
  | error e => exact InStep.pure
  | ok _ =>
    apply steady.callEnterScope.bind
    intro _
    apply (steady.tryCall (steady.entryPoint name)).bind
    intro ran
    cases ran with
    | error e => exact finish (.error e)
    | ok _ => exact steady.callDrain.bind finish

theorem boot (image : Image) (config : Config) : InStep R (Lifecycle.boot F image config) := by
  unfold Lifecycle.boot
  apply (steady.tryCall (steady.start config)).bind
  intro started
  cases started with
  | error e => exact InStep.pure
  | ok _ =>
    apply (steady.tryCall (steady.loadImage image)).bind
    intro loaded
    cases loaded with
    | error e => exact steady.callStop.bind fun _ => InStep.pure
    | ok i =>
      apply (steady.runEntryPoint i config.entryPoint).bind
      intro ran
      cases ran with
      | ok _ => exact InStep.pure
      | error e =>
        exact (steady.callShutdownIsolate i).bind fun _ => steady.callStop.bind fun _ => InStep.pure

theorem launchStart (image : Image) (config : Config) :
    InStep R (Lifecycle.start F image config) := by
  unfold Lifecycle.start Lifecycle.phase
  apply steady.asksBridge.bind
  intro now
  split
  · exact InStep.pure
  · apply (steady.setPhase _).bind
    intro _
    apply (steady.boot image config).bind
    intro booted
    cases booted with
    | ok i =>
      apply InStep.bind ?_ fun _ => InStep.pure
      exact steady.update fun s => .session .running (some i) s.bridge.guard s.bridge.serviceUrl
    | error e =>
      exact (steady.setPhase _).bind fun _ => (steady.report _).bind fun _ => InStep.pure

theorem launchWith (path : Path) (config : Config) :
    InStep R (Lifecycle.launchWith F path config) := by
  unfold Lifecycle.launchWith
  apply (steady.asks fun _ _ _ _ => rfl).bind
  intro files
  split
  · exact InStep.pure
  · apply (steady.launchStart _ config).bind
    intro started
    cases started with
    | error e => exact InStep.pure
    | ok _ => exact (steady.setServiceUrl _).bind fun _ => InStep.pure

theorem launch (path : Path) : InStep R (Lifecycle.launch F path) := by
  unfold Lifecycle.launch Lifecycle.phase
  apply steady.asksBridge.bind
  intro now
  split
  · exact InStep.pure
  · apply (steady.asks fun _ _ _ _ => rfl).bind
    intro environment
    apply (steady.asks fun _ _ _ _ => rfl).bind
    intro files
    split
    · exact InStep.pure
    · split
      · exact (steady.report _).bind fun _ => steady.launchWith path _
      · exact steady.launchWith path _

/-! ### Inside -/

theorem activate : InStep R (Isolate.activate F) := by
  unfold Isolate.activate
  apply steady.asksBridge.bind
  intro isolate
  cases isolate with
  | none => exact InStep.pure
  | some i =>
    apply (steady.tryCall (steady.enterIsolate i)).bind
    intro entered
    cases entered with
    | ok _ => exact InStep.pure
    | error e => exact (steady.report _).bind fun _ => InStep.pure

theorem enter : InStep R (Isolate.enter F) := by
  unfold Isolate.enter
  apply steady.thread.bind
  intro me
  apply steady.asksBridge.bind
  intro g
  split
  · exact (steady.setGuard _).bind fun _ => InStep.pure
  · exact Tandem.halt
  · apply (steady.setGuard _).bind
    intro _
    apply (steady.activate.onPanic (steady.setGuard _)).bind
    intro active
    split
    · exact (steady.setGuard _).bind fun _ => InStep.pure
    · exact (steady.setGuard _).bind fun _ => InStep.pure

theorem leave (e : Entry) : InStep R (Isolate.leave F e) := by
  have vacate : InStep R (do
      F.vm.callExitIsolate
      Isolate.setGuard .vacate : Exec P Unit) :=
    steady.callExitIsolate.bind fun _ => steady.setGuard _
  unfold Isolate.leave
  apply steady.thread.bind
  intro me
  apply steady.asksBridge.bind
  intro g
  cases e with
  | nested =>
    dsimp only
    split
    · exact (steady.report _).bind fun _ => steady.setGuard _
    · exact steady.setGuard _
  | outer =>
    dsimp only
    split
    · exact (steady.report _).bind fun _ => vacate
    · exact vacate

theorem within {x : Entry → Exec P α} (hx : ∀ e, InStep R (x e)) :
    InStep R (Isolate.within F x) := by
  unfold Isolate.within
  apply steady.enter.bind
  intro entry
  cases entry with
  | none => exact InStep.pure
  | some e => exact ((hx e).ensure (steady.leave e)).bind fun _ => InStep.pure

theorem inScope {x : Exec P α} (hx : InStep R x) : InStep R (Isolate.inScope F x) := by
  unfold Isolate.inScope
  apply steady.callEnterScope.bind
  intro _
  exact hx.bind fun _ => steady.callExitScope.bind fun _ => InStep.pure

theorem drainQueue : InStep R (Isolate.drain F) := by
  unfold Isolate.drain
  apply steady.callDrain.bind
  intro drained
  cases drained with
  | ok _ => exact InStep.pure
  | error e => exact steady.report _

theorem tick : InStep R (Lifecycle.tick F) := by
  unfold Lifecycle.tick
  apply steady.isRunning.bind
  intro running
  split
  · exact (steady.within fun _ => steady.inScope steady.drainQueue).discard
  · exact InStep.pure

/-! ### End -/

theorem finishShutdown : InStep R (Lifecycle.finishShutdown F) := by
  unfold Lifecycle.finishShutdown
  apply InStep.bind
  · apply steady.exclusively
    apply steady.asksBridge.bind
    intro isolate
    apply InStep.bind
    · exact steady.update fun s => .session s.bridge.phase none s.bridge.guard s.bridge.serviceUrl
    · intro _
      cases isolate with
      | none => exact InStep.pure
      | some i => exact steady.callShutdownIsolate i
  · exact fun _ => steady.callStop.bind fun _ => steady.setPhase _

theorem shutdown : InStep R (Lifecycle.shutdown F) := by
  unfold Lifecycle.shutdown Lifecycle.shutdownWith
  apply InStep.bind
  · apply steady.beginShutdown.bind
    intro begun
    split
    · exact steady.clear.bind fun _ => steady.finishShutdown.bind fun _ => InStep.pure
    · exact InStep.pure
  · intro ended
    split
    · exact (steady.setServiceUrl none).bind fun _ => InStep.pure
    · exact InStep.pure

/-! ### Events -/

theorem callHandler (k : EventKind) (args : Args k.params) :
    InStep R (Dispatch.callHandler F k args) := by
  unfold Dispatch.callHandler
  apply steady.asksBridge.bind
  intro handlers
  split
  · exact (steady.log _).bind fun _ => steady.handler _ k args
  · exact InStep.pure

theorem deliver (k : EventKind) (args : Args k.params) :
    InStep R (Dispatch.deliver F k args) := by
  unfold Dispatch.deliver
  apply InStep.bind
  · apply steady.inScope
    apply (steady.callHandler k args).attempt.bind
    intro answered
    split
    · exact steady.drainQueue.bind fun _ => InStep.pure
    · exact InStep.pure
  · intro answered
    cases answered with
    | ok x => exact InStep.pure
    | error m => exact (steady.report _).bind fun _ => InStep.pure

theorem dispatch (k : EventKind) (args : Args k.params) :
    InStep R (Dispatch.dispatch F k args) := by
  unfold Dispatch.dispatch
  apply steady.isRunning.bind
  intro running
  split
  · apply (steady.within fun _ => steady.deliver k args).bind
    intro answered
    cases answered with
    | some x => exact InStep.pure
    | none => exact InStep.pure
  · exact InStep.pure

end ForeignSteady
end HostBridge
