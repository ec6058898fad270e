import HostBridge.Proofs.Programs

/-!
What the operations of the session need. They call the VM and the handlers, move the phase, the
isolate and the address of the service, and go through the guard, which some invariants follow and
others do not. A family of invariants that withstands these parts withstands the operations.
-/
namespace HostBridge

open Exec

variable {P : Platform} {α : Type}

def VmCall.isStart : VmCall P → Bool
  | .start _ => true
  | _ => false

/-- What the calls into a VM that was started keep, each with its entries in the record, and so do
the calls of handlers. The VM is asked to enter and to shut down only isolates that it gave, of
which something is so. -/
structure VmCalls (F : Foreign P (Exec P)) (given : P.Isolate → Prop) (I H : State P → Prop) : Prop
    extends Detached I H where
  isolate : ∀ {s i}, I s → s.bridge.isolate = some i → given i
  loadImage : ∀ image, Triple I (F.vm.callLoadImage image)
    (fun r s => (∀ i, r = .ok i → given i) ∧ I s) I H
  enterIsolate : ∀ i, given i → Keeps I H (F.vm.callEnterIsolate i)
  exitIsolate : Keeps I H F.vm.callExitIsolate
  enterScope : Keeps I H F.vm.callEnterScope
  exitScope : Keeps I H F.vm.callExitScope
  entryPoint : ∀ name, Keeps I H (F.vm.callEntryPoint name)
  drain : Keeps I H F.vm.callDrain
  shutdownIsolate : ∀ i, given i → Keeps I H (F.vm.callShutdownIsolate i)
  stop : Keeps I H F.vm.callStop
  handler : ∀ h k args, Keeps I H (F.callHandler h k args)

/-- An invariant that the calls into a VM once it was started have no part in, and that the code of
the VM and the handlers keeps. -/
structure StartedCalls (F : Foreign P (Exec P)) (I H : State P → Prop) : Prop
    extends Detached I H where
  vmCall : ∀ {s} (c : VmCall P), c.isStart = false → I s →
    I { s with record := .vmCall c :: s.record }
  vmReturn : ∀ {s} (r : VmReturn P), I s → I { s with record := .vmReturn r :: s.record }
  start : ∀ config, Keeps I H (F.vm.start config)
  loadImage : ∀ image, Keeps I H (F.vm.loadImage image)
  enterIsolate : ∀ i, Keeps I H (F.vm.enterIsolate i)
  exitIsolate : Keeps I H F.vm.exitIsolate
  enterScope : Keeps I H F.vm.enterScope
  exitScope : Keeps I H F.vm.exitScope
  entryPoint : ∀ name, Keeps I H (F.vm.entryPoint name)
  drain : Keeps I H F.vm.drain
  shutdownIsolate : ∀ i, Keeps I H (F.vm.shutdownIsolate i)
  stop : Keeps I H F.vm.stop
  handler : ∀ h k args, Keeps I H (F.callHandler h k args)

/-- An invariant that all calls into the VM have no part in, and that the code of the VM and the
handlers keeps. -/
structure SessionCalls (F : Foreign P (Exec P)) (I H : State P → Prop) : Prop
    extends StartedCalls F I H where
  callStart : ∀ {s} config, I s → I { s with record := .vmCall (.start config) :: s.record }

/-- An invariant that withstands what happens to the handle table, too, and in which the handlers
and the cache have no part either. -/
structure SessionCode (F : Foreign P (Exec P)) (I H : State P → Prop) : Prop
    extends Inert I H, SessionCalls F I H where
  handlers : ∀ {s} (r : Handlers P.Handler), I s →
    I { s with bridge := { s.bridge with handlers := r } }
  cleared : ∀ {s}, I s →
    I { s with bridge := { s.bridge with members := s.bridge.members.clear } }

namespace StartedCalls

variable {F : Foreign P (Exec P)} {I H : State P → Prop} (C : StartedCalls F I H)
include C

/-- A call that is on record comes back. -/
theorem returned {x : Exec P (Except VmError α)} {done : α → VmReturn P} (hx : Keeps I H x) :
    Keeps I H (do
      let r ← x
      Exec.record (.vmReturn (match r with
        | .ok a => done a
        | .error e => .failed e))
      return r) :=
  hx.bind fun _ => (Keeps.modify fun _ => C.vmReturn _).bind fun _ => Keeps.pure

theorem tryCall {c : VmCall P} {x : Exec P (Except VmError α)} {done : α → VmReturn P}
    (hx : Keeps I H x) (started : c.isStart = false := by rfl) :
    Keeps I H (Vm.tryCall c x done) :=
  (Keeps.modify fun _ => C.vmCall c started).bind fun _ => C.returned hx

theorem call {c : VmCall P} {x : Exec P Unit} (hx : Keeps I H x)
    (started : c.isStart = false := by rfl) :
    Keeps I H (do
      Exec.record (.vmCall c)
      x) :=
  (Keeps.modify fun _ => C.vmCall c started).bind fun _ => hx

theorem vmCalls : VmCalls F (fun _ => True) I H where
  toDetached := C.toDetached
  isolate _ _ := trivial
  loadImage image := (C.tryCall (C.loadImage image)).weaken fun _ _ h => ⟨fun _ _ => trivial, h⟩
  enterIsolate i _ := C.tryCall (C.enterIsolate i)
  exitIsolate := C.call C.exitIsolate
  enterScope := C.call C.enterScope
  exitScope := C.call C.exitScope
  entryPoint name := C.tryCall (C.entryPoint name)
  drain := C.tryCall C.drain
  shutdownIsolate i _ := C.call (C.shutdownIsolate i)
  stop := C.call C.stop
  handler := C.handler

end StartedCalls

/-- An invariant that the calls into a VM once it was started have no part in, nor those of
handlers, is kept by these calls if programs, of which all foreign code is made, keep it. -/
theorem System.startedCalls_ofPrograms {F : Foreign P (Act P)} {limit : Nat} {I H : State P → Prop}
    (detached : Detached I H)
    (vmCall : ∀ {s} (c : VmCall P), c.isStart = false → I s →
      I { s with record := .vmCall c :: s.record })
    (vmReturn : ∀ {s} (r : VmReturn P), I s → I { s with record := .vmReturn r :: s.record })
    (handlerCall : ∀ {s} (h : P.Handler) (k : EventKind) (args : Args k.params), I s →
      I { s with record := .handlerCall k h args :: s.record })
    (run : ∀ {β : Type} (b : Act P β), Keeps I H ((ofPrograms F).exec limit b)) :
    StartedCalls ((ofPrograms F).foreign limit) I H where
  toDetached := detached
  vmCall := vmCall
  vmReturn := vmReturn
  start _ := run _
  loadImage _ := run _
  enterIsolate _ := run _
  exitIsolate := run _
  enterScope := run _
  exitScope := run _
  entryPoint _ := run _
  drain := run _
  shutdownIsolate _ := run _
  stop := run _
  handler h k args := (Keeps.modify fun _ => handlerCall h k args).bind fun _ => run _

namespace VmCalls

variable {F : Foreign P (Exec P)} {given : P.Isolate → Prop} {I H : State P → Prop}
  (C : VmCalls F given I H)
include C

/-! ### Start -/

theorem runEntryPoint_keeps {i : P.Isolate} (known : given i) (name : String) :
    Keeps I H (Lifecycle.runEntryPoint F i name) := by
  unfold Lifecycle.runEntryPoint
  refine (C.enterIsolate i known).bind fun r => ?_
  cases r with
  | error e => exact Keeps.pure
  | ok _ =>
    have finish (r : Except VmError Unit) : Keeps I H (do
        F.vm.callExitScope
        F.vm.callExitIsolate
        return r : Exec P (Except VmError Unit)) :=
      C.exitScope.bind fun _ => C.exitIsolate.bind fun _ => Keeps.pure
    refine C.enterScope.bind fun _ => (C.entryPoint name).bind fun r => ?_
    cases r with
    | error e => exact finish (.error e)
    | ok _ => exact C.drain.bind finish

/-- A start holds the invariant from its first call on, and what is so at least where it failed
already holds wherever it fails. -/
theorem boot_of_start {J K : State P → Prop} {config : Config} (image : Image)
    (weaker : ∀ s, I s → K s)
    (started : Triple J (F.vm.callStart config) (fun r => match r with
      | .ok _ => I
      | .error _ => K) I H) :
    Triple J (Lifecycle.boot F image config) (fun r s => match r with
      | .ok i => given i ∧ I s
      | .error _ => K s) I H := by
  unfold Lifecycle.boot
  refine Triple.bind started fun r => ?_
  cases r with
  | error e => exact Triple.pure fun _ h => h
  | ok _ =>
    refine Triple.bind (C.loadImage image) fun r => Triple.of_and fun known => ?_
    cases r with
    | error e => exact Triple.bind C.stop fun _ => Triple.pure weaker
    | ok i =>
      refine Triple.bind (C.runEntryPoint_keeps (known i rfl) config.entryPoint) fun r => ?_
      cases r with
      | ok _ => exact Triple.pure fun _ h => ⟨known i rfl, h⟩
      | error e =>
        exact Triple.bind (C.shutdownIsolate i (known i rfl)) fun _ =>
          Triple.bind C.stop fun _ => Triple.pure weaker

/-! ### Inside -/

theorem inScope_keeps {x : Exec P α} (hx : Keeps I H x) : Keeps I H (Isolate.inScope F x) :=
  C.enterScope.bind fun _ => hx.bind fun _ => C.exitScope.bind fun _ => Keeps.pure

theorem drain_keeps : Keeps I H (Isolate.drain F) := by
  refine C.drain.bind fun r => ?_
  cases r with
  | ok _ => exact Keeps.pure
  | error e => exact C.sendReport _

theorem activate_keeps : Keeps I H (Isolate.activate F) := by
  unfold Isolate.activate
  refine Triple.bind Triple.asks fun found => ?_
  cases found with
  | none => exact Triple.pure fun _ h => h.2
  | some i =>
    refine Triple.of_pre fun s ⟨recorded, h⟩ => ?_
    have entered := C.enterIsolate i (C.isolate h recorded.symm)
    refine Triple.bind (entered.of_imp fun _ same => same ▸ h) fun r => ?_
    cases r with
    | ok _ => exact Keeps.pure
    | error e => exact (C.sendReport _).bind fun _ => Keeps.pure

theorem deliver_keeps (k : EventKind) (args : Args k.params) :
    Keeps I H (Dispatch.deliver F k args) := by
  have answered : Keeps I H (Dispatch.callHandler F k args) := by
    unfold Dispatch.callHandler
    refine Keeps.bridge.bind fun handlers => ?_
    split
    · exact C.handler _ k args
    · exact Keeps.pure
  unfold Dispatch.deliver
  refine (C.inScope_keeps (answered.attempt.bind fun r => ?_)).bind fun r => ?_
  · split
    · exact C.drain_keeps.bind fun _ => Keeps.pure
    · exact Keeps.pure
  · cases r with
    | ok x => exact Keeps.pure
    | error m => exact (C.sendReport _).bind fun _ => Keeps.pure

end VmCalls

theorem StartedCalls.boot_of_start {F : Foreign P (Exec P)} {I H J : State P → Prop}
    (C : StartedCalls F I H) {config : Config} (image : Image)
    (started : Triple J (F.vm.callStart config) (fun _ => I) I H) :
    Triple J (Lifecycle.boot F image config) (fun _ => I) I H := by
  have booted := C.vmCalls.boot_of_start (J := J) image (fun _ h => h)
    (started.weaken fun r _ h => by cases r <;> exact h)
  refine booted.weaken fun r _ h => ?_
  cases r with
  | ok i => exact h.2
  | error e => exact h

theorem SessionCalls.boot_keeps {F : Foreign P (Exec P)} {I H : State P → Prop}
    (C : SessionCalls F I H) (image : Image) (config : Config) :
    Keeps I H (Lifecycle.boot F image config) := by
  apply C.boot_of_start image
  exact Keeps.bind (Keeps.modify fun _ => C.callStart config) fun _ => C.returned (C.start config)

/-- What the program left is cleared away without a panic. -/
theorem Withstands.clear_keeps {F : Foreign P (Exec P)} {I E H : State P → Prop}
    (W : Withstands F I H)
    (handlers : ∀ s, I s → I { s with bridge := { s.bridge with handlers := .empty } })
    (cleared : ∀ s, I s →
      I { s with bridge := { s.bridge with members := s.bridge.members.clear } }) :
    Triple I (Lifecycle.clear F) (fun _ => I) E H := by
  refine Triple.bind (Triple.update ?_) fun _ =>
    Triple.bind (W.clearMembers cleared).discard fun _ => W.releaseAll.discard
  exact handlers

namespace SessionCode

variable {F : Foreign P (Exec P)} {I H : State P → Prop} (C : SessionCode F I H)
include C

theorem clearMembers_keeps : Keeps I H (Members.clear F) :=
  (C.withstands F).clearMembers fun _ => C.cleared

theorem clear_keeps : Keeps I H (Lifecycle.clear F) :=
  (C.withstands F).clear_keeps (fun _ => C.handlers _) fun _ => C.cleared

end SessionCode

/-! ### Launches -/

section
variable {F : Foreign P (Exec P)} {I H : State P → Prop}

/-- A start keeps an invariant that can be had again once the session is brought up or given up. -/
theorem start_keeps_of_booted {J : State P → Prop} (detached : Detached I H) {image : Image}
    {config : Config}
    (begun : ∀ s, I s → s.bridge.phase = .uninitialized →
      J { s with bridge := { s.bridge with phase := .initializing } })
    (booted : Triple J (Lifecycle.boot F image config) (fun r s => match r with
      | .ok i => I { s with bridge := { s.bridge with isolate := some i, phase := .running } }
      | .error _ => I { s with bridge := { s.bridge with phase := .uninitialized } }) I H) :
    Keeps I H (Lifecycle.start F image config) := by
  unfold Lifecycle.start
  refine Triple.bind Triple.asks fun now => ?_
  split
  case isTrue => exact Triple.pure fun _ h => h.2
  case isFalse fresh =>
    refine Triple.bind (Triple.update fun s h => ?_) fun _ => booted.bind fun r => ?_
    · exact begun s h.2 (h.1.symm.trans (not_not.mp fresh))
    · cases r with
      | ok i => exact Triple.bind (Triple.update fun _ h => h) fun _ => Keeps.pure
      | error e =>
        exact Triple.bind (Triple.update fun _ h => h) fun _ =>
          (detached.sendReport _).bind fun _ => Keeps.pure

/-- A launch is a start with reports before it and the address of the service after it. -/
theorem launchWith_keeps_of_start
    (serviceUrl : ∀ {s} (u : Option String), I s →
      I { s with bridge := { s.bridge with serviceUrl := u } })
    (start : ∀ image config, Keeps I H (Lifecycle.start F image config)) (path : Path)
    (config : Config) : Keeps I H (Lifecycle.launchWith F path config) := by
  unfold Lifecycle.launchWith
  refine Keeps.gets.bind fun files => ?_
  split
  · exact Keeps.pure
  · refine (start _ config).bind fun r => ?_
    cases r with
    | error e => exact Keeps.pure
    | ok _ =>
      refine Keeps.bind ?_ fun _ => Keeps.pure
      exact Keeps.modify fun _ => serviceUrl config.serviceUrl

theorem launch_keeps_of_launchWith (detached : Detached I H)
    (launchWith : ∀ path config, Keeps I H (Lifecycle.launchWith F path config)) (path : Path) :
    Keeps I H (Lifecycle.launch F path) := by
  unfold Lifecycle.launch
  refine Keeps.bridge.bind fun now => ?_
  split
  · exact Keeps.pure
  · refine Keeps.gets.bind fun environment => Keeps.gets.bind fun files => ?_
    split
    · exact Keeps.pure
    · split
      · exact (detached.sendReport _).bind fun _ => launchWith path _
      · exact launchWith path _

end

/-! ### Ticks and events -/

section
variable {F : Foreign P (Exec P)} {I H : State P → Prop}

/-- Whether a session runs is seen, and nothing changes. -/
theorem isRunning_tells {E : State P → Prop} : Triple I (Lifecycle.isRunning (P := P))
    (fun r s => if r then I s ∧ s.bridge.phase = .running else I s) E H := by
  refine Triple.gets fun s h => ?_
  by_cases running : s.bridge.phase = .running
  · simpa [running] using h
  · simpa [running] using h

/-- A tick keeps what its way into the isolate keeps while a session runs. -/
theorem tick_keeps_of_within
    (within : Triple (fun s => I s ∧ s.bridge.phase = .running)
      (Isolate.within F fun _ => Isolate.inScope F (Isolate.drain F)) (fun _ => I) I H) :
    Keeps I H (Lifecycle.tick F) := by
  unfold Lifecycle.tick
  refine Triple.bind isRunning_tells fun running => ?_
  cases running with
  | true => exact within.discard
  | false => exact Keeps.pure

/-- So does an event. -/
theorem dispatch_keeps_of_within (k : EventKind) (args : Args k.params)
    (within : Triple (fun s => I s ∧ s.bridge.phase = .running)
      (Isolate.within F fun _ => Dispatch.deliver F k args) (fun _ => I) I H) :
    Keeps I H (Dispatch.dispatch F k args) := by
  unfold Dispatch.dispatch
  refine Triple.bind isRunning_tells fun running => ?_
  cases running with
  | true =>
    refine within.bind fun answer => ?_
    cases answer with
    | some x => exact Keeps.pure
    | none => exact Keeps.pure
  | false => exact Keeps.pure

end

/-! ### Shutdowns -/

section
variable {F : Foreign P (Exec P)} {I J H : State P → Prop}

/-- A shutdown begins from outside the isolate of a session that runs, and otherwise it changes
nothing. -/
theorem beginShutdown_begins (detached : Detached I H)
    (begun : ∀ s, I s → s.bridge.phase = .running → s.bridge.guard.heldBy s.thread = false →
      J { s with bridge := { s.bridge with phase := .shuttingDown } }) :
    Triple I (Lifecycle.beginShutdown (P := P)) (fun r => match r with
      | .ok true => J
      | _ => I) I H := by
  unfold Lifecycle.beginShutdown
  refine Triple.bind Triple.asks fun me => Triple.bind Triple.asks fun g => ?_
  split
  case isTrue =>
    refine Triple.of_imp ?_ fun _ h => h.2.2
    exact Triple.bind (detached.sendReport _) fun _ => Triple.pure fun _ h => h
  case isFalse outside =>
    refine (Triple.bind isRunning_tells fun running => ?_).conseq (fun _ h => h) (fun _ _ h => h)
      (fun _ h => h) fun _ h => h
    cases running with
    | true =>
      refine Triple.bind (Triple.update fun s h => ?_) fun _ => Triple.pure fun _ h => h
      obtain ⟨⟨rfl, rfl, h⟩, running⟩ := h
      exact begun s h running (by simpa using outside)
    | false => exact Triple.pure fun _ h => h.2.2

/-- A shutdown keeps what its end does once it has begun. -/
theorem shutdown_keeps_of_ended (detached : Detached I H)
    (serviceUrl : ∀ {s} (u : Option String), I s →
      I { s with bridge := { s.bridge with serviceUrl := u } })
    (begun : ∀ s, I s → s.bridge.phase = .running → s.bridge.guard.heldBy s.thread = false →
      J { s with bridge := { s.bridge with phase := .shuttingDown } })
    (ended : Triple J (Lifecycle.clear F >>= fun _ => Lifecycle.finishShutdown F) (fun _ => I) I
      H) : Keeps I H (Lifecycle.shutdown F) := by
  unfold Lifecycle.shutdown Lifecycle.shutdownWith
  refine Keeps.bind (Triple.bind (beginShutdown_begins detached begun) fun r => ?_) fun r => ?_
  · rcases r with e | _ | _
    · exact Triple.pure fun _ h => h
    · exact Triple.pure fun _ h => h
    · change Triple _ (Lifecycle.clear F >>= fun _ => Lifecycle.finishShutdown F >>= fun _ => _) _ _
        _
      rw [← bind_assoc]
      exact ended.bind fun _ => Keeps.pure
  · split
    · exact Keeps.bind (Keeps.modify fun _ => serviceUrl none) fun _ => Keeps.pure
    · exact Keeps.pure

end

/-! ### The operations -/

/-- A family of invariants that withstands a session that runs. Inside the isolate another member
of the family may be in force, so the way through the guard stands here as it is. -/
structure BurstUse (F : Foreign P (Exec P)) {ι : Type} (I : ι → State P → Prop)
    (H : State P → Prop) : Prop where
  calls : ∀ i, StartedCalls F (I i) H
  within : ∀ i {β : Type} {x : Entry → Exec P β}, (∀ j e, Keeps (I j) H (x e)) →
    Keeps (I i) H (Isolate.within F x)

/-- A family of invariants that withstands a session but for its end. -/
structure SessionUse (F : Foreign P (Exec P)) {ι : Type} (I : ι → State P → Prop)
    (H : State P → Prop) : Prop extends BurstUse F I H where
  callStart : ∀ i {s} config, I i s →
    I i { s with record := .vmCall (.start config) :: s.record }
  session : ∀ i {s} (p : Phase) (isolate : Option P.Isolate) (u : Option String), I i s →
    I i { s with bridge := { s.bridge with phase := p, isolate := isolate, serviceUrl := u } }

/-- A family of invariants that withstands the session. While the isolate is kept out of reach
another member of the family may be in force, too. -/
structure SessionContract (F : Foreign P (Exec P)) {ι : Type} (I : ι → State P → Prop)
    (H : State P → Prop) : Prop extends SessionUse F I H where
  clear : ∀ i, Keeps (I i) H (Lifecycle.clear F)
  exclusively : ∀ i {β : Type} {x : Exec P β}, (∀ j, Keeps (I j) H x) →
    Keeps (I i) H (Isolate.exclusively x)

namespace BurstUse

variable {F : Foreign P (Exec P)} {ι : Type} {I : ι → State P → Prop} {H : State P → Prop}
  (C : BurstUse F I H) (i : ι)
include C

theorem tick_keeps : Keeps (I i) H (Lifecycle.tick F) := by
  have drained := C.within i fun j _ =>
    (C.calls j).vmCalls.inScope_keeps (C.calls j).vmCalls.drain_keeps
  exact tick_keeps_of_within (drained.of_imp fun _ h => h.1)

theorem dispatch_keeps (k : EventKind) (args : Args k.params) :
    Keeps (I i) H (Dispatch.dispatch F k args) := by
  have delivered := C.within i fun j _ => (C.calls j).vmCalls.deliver_keeps k args
  exact dispatch_keeps_of_within k args (delivered.of_imp fun _ h => h.1)

end BurstUse

namespace SessionUse

variable {F : Foreign P (Exec P)} {ι : Type} {I : ι → State P → Prop} {H : State P → Prop}
  (C : SessionUse F I H) (i : ι)
include C

theorem start_keeps (image : Image) (config : Config) :
    Keeps (I i) H (Lifecycle.start F image config) := by
  have booted : Keeps (I i) H (Lifecycle.boot F image config) :=
    SessionCalls.boot_keeps ⟨C.calls i, C.callStart i⟩ image config
  refine start_keeps_of_booted (C.calls i).toDetached
    (fun _ h _ => C.session i .initializing _ _ h) (Triple.weaken booted fun r s h => ?_)
  cases r with
  | ok isolate => exact C.session i .running (some isolate) s.bridge.serviceUrl h
  | error e => exact C.session i .uninitialized s.bridge.isolate s.bridge.serviceUrl h

theorem launchWith_keeps (path : Path) (config : Config) :
    Keeps (I i) H (Lifecycle.launchWith F path config) :=
  launchWith_keeps_of_start (fun u => C.session i _ _ u) (C.start_keeps i) path config

theorem launch_keeps (path : Path) : Keeps (I i) H (Lifecycle.launch F path) :=
  launch_keeps_of_launchWith (C.calls i).toDetached (C.launchWith_keeps i) path

omit i in
theorem kept : UseKept F I H where
  launch := C.launch_keeps
  launchWith := C.launchWith_keeps
  tick := C.tick_keeps
  dispatch := C.dispatch_keeps

end SessionUse

namespace SessionContract

variable {F : Foreign P (Exec P)} {ι : Type} {I : ι → State P → Prop} {H : State P → Prop}
  (C : SessionContract F I H) (i : ι)
include C

theorem finishShutdown_keeps : Keeps (I i) H (Lifecycle.finishShutdown F) := by
  unfold Lifecycle.finishShutdown
  refine (C.exclusively i fun j => ?_).bind fun _ =>
    ((C.calls i).call (C.calls i).stop).bind fun _ =>
      Keeps.modify fun _ => C.session i .uninitialized _ _
  refine Keeps.bridge.bind fun found => ?_
  refine Keeps.bind (Keeps.modify fun _ => C.session j _ none _) fun _ => ?_
  cases found with
  | none => exact Keeps.pure
  | some isolate => exact (C.calls j).call ((C.calls j).shutdownIsolate isolate)

theorem shutdown_keeps : Keeps (I i) H (Lifecycle.shutdown F) :=
  shutdown_keeps_of_ended (C.calls i).toDetached (fun u => C.session i _ _ u)
    (fun s h _ _ => C.session i .shuttingDown s.bridge.isolate s.bridge.serviceUrl h)
    ((C.clear i).bind fun _ => C.finishShutdown_keeps i)

omit i in
theorem kept : SessionKept F I H where
  toUseKept := C.toSessionUse.kept
  shutdown := C.shutdown_keeps

end SessionContract
end HostBridge
