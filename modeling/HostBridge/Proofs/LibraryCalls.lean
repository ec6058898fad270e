import HostBridge.Proofs.LibraryRecord

/-!
A bridge keeps to what may come after a call into the VM. The embedding library is loaded from the
first start that finds it on, and every call into the VM is then carried out; before that there is
no session, and nothing is asked of the VM but to start.
-/
namespace HostBridge

open Exec

variable {N : Process} {α : Type}

/-- What a bridge that keeps to it is like between calls: its library is loaded, or, at least, no
session was begun without it. -/
def Conduct (load : Loader) (fs : FileSystem) (old : List (LibraryEvent N)) (needed : Bool) :
    State N.platform → Prop := Having fun d =>
  match needed with
  | true => Conducted load fs old true none d
  | false => ∃ b, Conducted load fs old b none d ∧ (b = false → d.phase = .uninitialized)

namespace Conduct

section
variable {load : Loader} {fs : FileSystem} {old : List (LibraryEvent N)} {needed : Bool}
  {s : State N.platform}

theorem of_loaded (h : Conduct load fs old true s) (needed : Bool) :
    Conduct load fs old needed s := by
  cases needed with
  | true => exact h
  | false => exact ⟨true, h, nofun⟩

theorem weaken (h : Conduct load fs old needed s) : Conduct load fs old false s := by
  cases needed with
  | true => exact ⟨true, h, nofun⟩
  | false => exact h

/-- Where a session was begun the library is loaded. -/
theorem of_begun (h : Conduct load fs old needed s) (begun : s.bridge.phase ≠ .uninitialized) :
    Conduct load fs old true s := by
  obtain ⟨b, kept, idle⟩ := h.weaken
  cases b with
  | true => exact kept
  | false => exact absurd (idle rfl) begun

/-- While a session runs the library is loaded. -/
theorem of_running (h : Conduct load fs old needed s) (running : s.bridge.phase = .running) :
    Conduct load fs old true s :=
  h.of_begun (by rw [running]; nofun)

theorem aside {t : State N.platform} (h : Conduct load fs old needed s)
    (same : s.dealings = t.dealings) : Conduct load fs old needed t := by
  unfold Conduct Having at h ⊢
  rwa [← same]

end

/-! ### Functions of the VM -/

/-- Leaves the library loaded. -/
abbrev KeepsLoaded (load : Loader) (fs : FileSystem) (old : List (LibraryEvent N))
    (x : Exec N.platform α) : Prop :=
  Keeps (Conduct load fs old true) (Conduct load fs old false) x

/-- Does what has to come after a call into the VM while the library is loaded. -/
abbrev Serves (load : Loader) (fs : FileSystem) (old : List (LibraryEvent N))
    (k : VmCall N.platform) (x : Exec N.platform α) (post : α → State N.platform → Prop) : Prop :=
  Triple (Having (Conducted load fs old true (some k))) x post (Conduct load fs old true)
    (Conduct load fs old false)

/-- What a call into the VM came to: it was carried out, or its text was refused. -/
def Outcome (load : Loader) (fs : FileSystem) (old : List (LibraryEvent N))
    (k : VmCall N.platform) (p : α → Prop) (r : Except VmError α) : State N.platform → Prop :=
  Having fun d => match r with
    | .ok a => p a ∧ Conducted load fs old true none d
    | .error e => e.skips = false ∧ (Conducted load fs old true none d ∨
        LibraryEvent.answer k = .returned (.failed e) ∧ Conducted load fs old true (some k) d)

section
variable {load : Loader} {fs : FileSystem} {old : List (LibraryEvent N)} {k : VmCall N.platform}
  {l : LibraryCall N.Isolate} {p : α → Prop}

theorem isLoaded {b : Bool} {c : Option (VmCall N.platform)} {E H : State N.platform → Prop} :
    Triple (Having (Conducted load fs old b c)) (LibraryVm.isLoaded (N := N))
      (fun r s => r = b ∧ Having (Conducted load fs old b c) s) E H :=
  Triple.gets fun _ h => ⟨h.loaded, h⟩

/-- Once the library is loaded nothing is left out. -/
theorem whenLoaded {x : Exec N.platform (Except VmError α)}
    {post : Except VmError α → State N.platform → Prop} (hx : Serves load fs old k x post) :
    Serves load fs old k (LibraryVm.whenLoaded x) post := by
  refine isLoaded.bind fun b => Triple.of_and ?_
  rintro rfl
  exact hx

/-- The call of the library that a call into the VM stands for. -/
theorem call {x : Exec N.platform α} (is : LibraryEvent.answer k = .called l)
    (real : ∀ i, l = .enterIsolate i → N.isNull i = false) (hx : KeepsLoaded load fs old x) :
    Serves load fs old k (LibraryVm.call l x) fun _ => Conduct load fs old true := by
  refine Triple.bind (Having.record rfl fun d h => h.answer is rfl ?_ nofun) fun _ => hx
  rintro i ⟨⟩
  exact real i rfl

/-- One more call of the library. -/
theorem callAgain {x : Exec N.platform α} (real : ∀ i, l = .enterIsolate i → N.isNull i = false)
    (hx : KeepsLoaded load fs old x) : KeepsLoaded load fs old (LibraryVm.call l x) :=
  Triple.bind (Having.record rfl fun _ h => h.call real) fun _ => hx

theorem callIfLoaded {x : Exec N.platform Unit} (is : LibraryEvent.answer k = .called l)
    (real : ∀ i, l = .enterIsolate i → N.isNull i = false) (hx : KeepsLoaded load fs old x) :
    Serves load fs old k (LibraryVm.callIfLoaded l x) fun _ => Conduct load fs old true := by
  refine isLoaded.bind fun b => Triple.of_and ?_
  rintro rfl
  exact call is real hx

/-! #### On record -/

theorem tryCall {x : Exec N.platform (Except VmError α)} {done : α → VmReturn N.platform}
    (hx : Serves load fs old k x (Outcome load fs old k p)) (succeeds : ∀ a e, done a ≠ .failed e) :
    Triple (Conduct load fs old true) (Vm.tryCall k x done)
      (fun r s => (∀ a, r = .ok a → p a) ∧ Conduct load fs old true s) (Conduct load fs old true)
      (Conduct load fs old false) := by
  unfold Vm.tryCall
  refine Triple.bind (Having.record rfl fun _ h => Conducted.ask h k) fun _ => hx.bind fun r => ?_
  cases r with
  | ok a =>
    refine Triple.bind
      (Having.record (K := fun d => p a ∧ Conducted load fs old true none d) rfl ?_)
      fun _ => Triple.pure fun s h => ⟨?_, h.2⟩
    · exact fun d h => ⟨h.1, h.2.back fun e failed => absurd failed (succeeds a e)⟩
    · rintro _ ⟨⟩
      exact h.1
  | error e =>
    refine Triple.bind (Having.record (K := Conducted load fs old true none) rfl ?_) fun _ =>
      Triple.pure fun s h => ⟨nofun, h⟩
    rintro d ⟨carried, kept | ⟨is, kept⟩⟩
    · exact kept.back (by rintro _ ⟨⟩; exact carried)
    · exact kept.answer is rfl nofun (by rintro _ ⟨⟩; exact carried)

/-- A call that gives nothing but that it was done. -/
theorem tryDone {x : Exec N.platform (Except VmError Unit)}
    (hx : Serves load fs old k x (Outcome load fs old k fun _ => True)) :
    KeepsLoaded load fs old (Vm.tryCall k x fun _ => .done) :=
  (tryCall hx (by rintro _ _ ⟨⟩)).weaken fun _ _ h => h.2

/-- A call that always comes back. -/
theorem vmCall {x : Exec N.platform Unit}
    (hx : Serves load fs old k x fun _ => Conduct load fs old true) :
    KeepsLoaded load fs old (do
      Exec.record (.vmCall k)
      x) :=
  Triple.bind (Having.record rfl fun _ h => Conducted.ask h k) fun _ => hx

end

/-! #### One by one -/

section
variable {L : Library N (Exec N.platform)} {fs : FileSystem} {old : List (LibraryEvent N)}

/-- A first start looks for the library, and any other finds the one that is loaded. -/
theorem ensureLoaded {b : Bool} {E H : State N.platform → Prop} (config : Config) :
    Triple (Having (Conducted L.load fs old b (some (.start config))))
      (LibraryVm.ensureLoaded L config.vmLibrary)
      (fun r => Having fun d => match r with
        | .ok _ => Conducted L.load fs old true none (d.add (.answer (.start config)))
        | .error e =>
          e.skips = false ∧ Conducted L.load fs old b none (d.add (.returned (.failed e))))
      E H := by
  unfold LibraryVm.ensureLoaded
  refine isLoaded.bind fun loaded => Triple.of_and ?_
  rintro rfl
  cases loaded with
  | true => exact Triple.pure fun s h => h.answer rfl rfl nofun nofun
  | false =>
    refine Triple.bind Triple.asks fun files => Triple.of_pre fun s ⟨seen, h⟩ => ?_
    have same : files = fs := seen.trans h.files
    subst same
    split
    case h_1 e lacks =>
      apply Triple.pure
      rintro _ rfl
      exact ⟨L.load_skips lacks, h.miss lacks (L.load_skips lacks)⟩
    case h_2 found =>
      refine Triple.bind (Triple.modify ?_) fun _ => Triple.pure fun _ h => h
      rintro _ rfl
      exact h.find found

variable (each : L.Each fun x => KeepsLoaded L.load fs old x)
include each

theorem start {b : Bool} (config : Config) :
    Triple (Having (Conducted L.load fs old b (some (.start config)))) (LibraryVm.start L config)
      (fun r => Having fun d => match r with
        | .ok _ => Conducted L.load fs old true none d
        | .error e => e.skips = false ∧ (Conducted L.load fs old true none d ∨
            Conducted L.load fs old b none (d.add (.returned (.failed e)))))
      (Conduct L.load fs old true) (Conduct L.load fs old false) := by
  unfold LibraryVm.start
  refine (ensureLoaded config).bind fun r => ?_
  cases r with
  | error e => exact Triple.pure fun s h => ⟨h.1, .inr h.2⟩
  | ok _ =>
    refine Triple.bind (Triple.bind (Having.record rfl fun _ h => h) fun _ => each.start _ _)
      fun began => ?_
    cases began with
    | true => exact Triple.pure fun _ h => h
    | false => exact Triple.pure fun _ h => ⟨rfl, .inl h⟩

theorem loadImage (image : Image) :
    Serves L.load fs old (.loadImage image) (LibraryVm.loadImage L image)
      (Outcome L.load fs old (.loadImage image) fun i => N.isNull i = false) := by
  refine whenLoaded ?_
  split
  case h_1 e refused =>
    refine Triple.pure fun s h => ⟨LibraryVm.passable_skips refused, .inr ⟨?_, h⟩⟩
    simp [LibraryEvent.answer, refused]
  case h_2 script e passed refused =>
    refine Triple.pure fun s h => ⟨LibraryVm.passable_skips refused, .inr ⟨?_, h⟩⟩
    simp [LibraryEvent.answer, passed, refused]
  case h_3 script packages path packs =>
    have is : LibraryEvent.answer (.loadImage image) =
        (.called (.loadScript script packages) : LibraryEvent N) := by
      simp [LibraryEvent.answer, path, packs]
    refine (call is nofun (each.loadScript script packages)).bind fun i => ?_
    split
    case isTrue => exact Triple.pure fun s h => ⟨rfl, .inl h⟩
    case isFalse there => exact Triple.pure fun s h => ⟨by simpa using there, h⟩

/-- The library is asked to enter an isolate that there is. -/
theorem callEnter {i : N.Isolate} (real : N.isNull i = false) {k : VmCall N.platform}
    (is : LibraryEvent.answer k = .called (.enterIsolate i)) :
    Serves L.load fs old k (LibraryVm.call (.enterIsolate i) (L.enterIsolate i))
      fun _ => Conduct L.load fs old true := by
  refine call is ?_ (each.enterIsolate i)
  rintro _ ⟨⟩
  exact real

theorem enterIsolate {i : N.Isolate} (real : N.isNull i = false) :
    Serves L.load fs old (.enterIsolate i) (LibraryVm.enterIsolate L i)
      (Outcome L.load fs old (.enterIsolate i) fun _ => True) := by
  refine whenLoaded ?_
  rw [if_neg (by simp [real])]
  exact (callEnter each real rfl).bind fun _ => Triple.pure fun s h => ⟨trivial, h⟩

theorem endIsolate {i : N.Isolate} (real : N.isNull i = false) :
    Serves L.load fs old (.shutdownIsolate i) (LibraryVm.endIsolate L i)
      fun _ => Conduct L.load fs old true := by
  refine isLoaded.bind fun b => Triple.of_and ?_
  rintro rfl
  exact (callEnter each real rfl).bind fun _ =>
    callAgain (l := .shutdownIsolate) nofun each.shutdownIsolate

theorem entryPoint (name : String) :
    Serves L.load fs old (.entryPoint name) (LibraryVm.entryPoint L name)
      (Outcome L.load fs old (.entryPoint name) fun _ => True) := by
  refine whenLoaded ?_
  split
  case isTrue zero => exact Triple.pure fun s h => ⟨rfl, .inr ⟨if_pos zero, h⟩⟩
  case isFalse fine =>
    have is : LibraryEvent.answer (.entryPoint name) = (.called .rootLibrary : LibraryEvent N) :=
      if_neg fine
    refine (call is nofun each.rootLibrary).bind fun root => ?_
    split
    · exact Triple.pure fun s h => ⟨rfl, .inl h⟩
    · refine Triple.bind (callAgain (l := .invoke name) nofun (each.invoke name)) fun answer => ?_
      split
      · refine Triple.pure fun s h => ⟨?_, .inl h⟩
        unfold LibraryVm.entryPointError
        split <;> rfl
      · exact Triple.pure fun s h => ⟨trivial, h⟩

theorem drainQueue :
    Serves L.load fs old .drain (LibraryVm.drainQueue L)
      (Outcome L.load fs old .drain fun _ => True) := by
  refine whenLoaded ((call (l := .drain) rfl nofun each.drain).bind fun answer => ?_)
  split
  · exact Triple.pure fun s h => ⟨rfl, .inl h⟩
  · exact Triple.pure fun s h => ⟨trivial, h⟩

end

/-! ### The session -/

section
variable {load : Loader} {fs : FileSystem} {old : List (LibraryEvent N)}

/-- A change of the session aside from whether there is one. -/
theorem session {s : State N.platform} (h : Conduct load fs old true s) (p : Phase) (g : Guard)
    {i : Option N.Isolate} (real : ∀ j, i = some j → N.isNull j = false) :
    Conduct load fs old true { s with bridge :=
      { s.bridge with phase := p, guard := g, isolate := i } } :=
  { h with real := real }

theorem guard {s : State N.platform} (g : Guard) (h : Conduct load fs old true s) :
    Conduct load fs old true { s with bridge := { s.bridge with guard := g } } :=
  h.session _ g h.real

end
end Conduct

/-! ### Surroundings -/

/-- Surroundings that let a bridge keep to what may come after a call into the VM. -/
structure ConductContract (S : Process.Surroundings N (Exec N.platform))
    (extra : {α : Type} → N.Extra α → Exec N.platform α) (fs : FileSystem)
    (old : List (LibraryEvent N)) : Prop where
  each : ∀ needed, S.Each fun x =>
    Keeps (Conduct S.library.load fs old needed) (Conduct S.library.load fs old false) x
  extra : ∀ needed {β : Type} (o : N.Extra β),
    Keeps (Conduct S.library.load fs old needed) (Conduct S.library.load fs old false) (extra o)

namespace ConductContract

variable {S : Process.Surroundings N (Exec N.platform)}
  {extra : {α : Type} → N.Extra α → Exec N.platform α} {fs : FileSystem}
  {old : List (LibraryEvent N)} (C : ConductContract S extra fs old)
include C

theorem dealings (needed : Bool) : DealingsContract S extra (Conduct S.library.load fs old needed)
    (Conduct S.library.load fs old false) where
  aside := Conduct.aside
  halts _ h := h.weaken
  java := (C.each needed).java
  handler := (C.each needed).handler
  sink := (C.each needed).sink
  extra := C.extra needed

theorem vmCalls : VmCalls (Process.foreign S extra) (fun i => N.isNull i = false)
    (Conduct S.library.load fs old true) (Conduct S.library.load fs old false) where
  toDetached := (C.dealings true).detached
  isolate h recorded := h.real _ recorded
  loadImage image :=
    Conduct.tryCall (Conduct.loadImage (C.each true).library image) fun _ _ => nofun
  enterIsolate _ real := Conduct.tryDone (Conduct.enterIsolate (C.each true).library real)
  exitIsolate := Conduct.vmCall
    (Conduct.callIfLoaded (l := .exitIsolate) rfl nofun (C.each true).library.exitIsolate)
  enterScope := Conduct.vmCall
    (Conduct.callIfLoaded (l := .enterScope) rfl nofun (C.each true).library.enterScope)
  exitScope := Conduct.vmCall
    (Conduct.callIfLoaded (l := .exitScope) rfl nofun (C.each true).library.exitScope)
  entryPoint name := Conduct.tryDone (Conduct.entryPoint (C.each true).library name)
  drain := Conduct.tryDone (Conduct.drainQueue (C.each true).library)
  shutdownIsolate _ real := Conduct.vmCall (Conduct.endIsolate (C.each true).library real)
  stop := Conduct.vmCall (Conduct.callIfLoaded (l := .stop) rfl nofun (C.each true).library.stop)
  handler := (C.dealings true).callHandler

/-! ### The session -/

/-- A start that fails to find the library leaves it at that; from any other on it is loaded. -/
theorem callStart {b : Bool} (config : Config) :
    Triple (Having (Conducted S.library.load fs old b none))
      ((Process.foreign S extra).vm.callStart config)
      (fun r => match r with
        | .ok _ => Conduct S.library.load fs old true
        | .error _ => Having fun d =>
          ∃ b', (b = true → b' = true) ∧ Conducted S.library.load fs old b' none d)
      (Conduct S.library.load fs old true) (Conduct S.library.load fs old false) := by
  unfold Vm.callStart Vm.tryCall
  refine Triple.bind (Having.record rfl fun _ h => Conducted.ask h (.start config)) fun _ =>
    Triple.bind (Conduct.start (C.each true).library config) fun r => ?_
  cases r with
  | ok _ =>
    refine Triple.bind (Having.record rfl fun _ h => ?_) fun _ => Triple.pure fun _ h => h
    exact Conducted.back h nofun
  | error e =>
    refine Triple.bind (Having.record rfl ?_) fun _ => Triple.pure fun _ h => h
    rintro d ⟨carried, kept | kept⟩
    · exact ⟨true, fun _ => rfl, kept.back (by rintro _ ⟨⟩; exact carried)⟩
    · exact ⟨b, id, kept⟩

theorem start_keeps (needed : Bool) (image : Image) (config : Config) :
    Keeps (Conduct S.library.load fs old needed) (Conduct S.library.load fs old false)
      (Lifecycle.start (Process.foreign S extra) image config) := by
  have booted (b : Bool) := (C.vmCalls.boot_of_start image (fun _ h => ⟨true, fun _ => rfl, h⟩)
    (C.callStart (b := b) config)).conseq (fun _ h => h) (fun _ _ h => h)
    (fun _ h => h.of_loaded needed) fun _ h => h
  -- Whether the library is loaded is fixed before the start, as the phase no longer tells it later.
  let J : State N.platform → Prop := Having fun d =>
    ∃ b, (needed = true → b = true) ∧ Conducted S.library.load fs old b none d
  refine start_keeps_of_booted (J := J) (C.dealings needed).detached (fun s h _ => ?_)
    (Triple.of_exists fun b => Triple.of_and fun known => (booted b).weaken fun r s h => ?_)
  · cases needed with
    | true => exact ⟨true, id, { h with }⟩
    | false =>
      obtain ⟨b, kept, -⟩ := h
      exact ⟨b, nofun, { kept with }⟩
  · cases r with
    | ok i =>
      refine (Conduct.session h.2 .running s.bridge.guard ?_).of_loaded needed
      rintro _ ⟨⟩
      exact h.1
    | error e =>
      obtain ⟨b', still, kept⟩ := h
      cases needed with
      | true =>
        cases still (known rfl)
        exact { kept with }
      | false => exact ⟨b', { kept with }, fun _ => rfl⟩

theorem launchWith_keeps (needed : Bool) (path : Path) (config : Config) :
    Keeps (Conduct S.library.load fs old needed) (Conduct S.library.load fs old false)
      (Lifecycle.launchWith (Process.foreign S extra) path config) :=
  launchWith_keeps_of_start (fun _ h => h.aside rfl) (C.start_keeps needed) path config

theorem launch_keeps (needed : Bool) (path : Path) :
    Keeps (Conduct S.library.load fs old needed) (Conduct S.library.load fs old false)
      (Lifecycle.launch (Process.foreign S extra) path) :=
  launch_keeps_of_launchWith (C.dealings needed).detached (C.launchWith_keeps needed) path

theorem tick_keeps (needed : Bool) :
    Keeps (Conduct S.library.load fs old needed) (Conduct S.library.load fs old false)
      (Lifecycle.tick (Process.foreign S extra)) := by
  have drained := C.vmCalls.within_keeps Conduct.guard fun _ =>
    C.vmCalls.inScope_keeps C.vmCalls.drain_keeps
  exact tick_keeps_of_within (drained.conseq (fun _ h => h.1.of_running h.2)
    (fun _ _ h => h.of_loaded needed) (fun _ h => h.of_loaded needed) fun _ h => h)

theorem dispatch_keeps (needed : Bool) (k : EventKind) (args : Args k.params) :
    Keeps (Conduct S.library.load fs old needed) (Conduct S.library.load fs old false)
      (Dispatch.dispatch (Process.foreign S extra) k args) := by
  have delivered := C.vmCalls.within_keeps Conduct.guard fun _ => C.vmCalls.deliver_keeps k args
  exact dispatch_keeps_of_within k args (delivered.conseq (fun _ h => h.1.of_running h.2)
    (fun _ _ h => h.of_loaded needed) (fun _ h => h.of_loaded needed) fun _ h => h)

theorem finishShutdown_keeps :
    Keeps (Conduct S.library.load fs old true) (Conduct S.library.load fs old false)
      (Lifecycle.finishShutdown (Process.foreign S extra)) := by
  unfold Lifecycle.finishShutdown
  refine Keeps.bind (C.vmCalls.exclusively_keeps Conduct.guard ?_) fun _ =>
    C.vmCalls.stop.bind fun _ => Keeps.modify fun s h =>
      Conduct.session h .uninitialized s.bridge.guard h.real
  refine Triple.bind Triple.asks fun isolate => Triple.of_pre fun s ⟨seen, h⟩ => ?_
  have taken : Triple (· = s) (Exec.update fun b : Bridge N.platform => { b with isolate := none })
      (fun _ => Conduct S.library.load fs old true) (Conduct S.library.load fs old true)
      (Conduct S.library.load fs old false) := by
    apply Triple.update
    rintro _ rfl
    exact Conduct.session h _ _ nofun
  refine taken.bind fun _ => ?_
  cases isolate with
  | none => exact Keeps.pure
  | some i => exact C.vmCalls.shutdownIsolate i (h.real i seen.symm)

theorem shutdown_keeps (needed : Bool) :
    Keeps (Conduct S.library.load fs old needed) (Conduct S.library.load fs old false)
      (Lifecycle.shutdown (Process.foreign S extra)) := by
  have cleared : Keeps (Conduct S.library.load fs old true) (Conduct S.library.load fs old false)
      (Lifecycle.clear (Process.foreign S extra)) :=
    (C.dealings true).withstands.clear_keeps (fun _ h => h.aside rfl) fun _ h => h.aside rfl
  have ended := Keeps.bind cleared fun _ => C.finishShutdown_keeps
  refine shutdown_keeps_of_ended (C.dealings needed).detached (fun _ h => h.aside rfl)
    (fun s h running _ => ?_) (ended.conseq (fun _ h => h) (fun _ _ h => h.of_loaded needed)
      (fun _ h => h.of_loaded needed) fun _ h => h)
  -- A session that runs has its library loaded.
  have loaded := h.of_running running
  exact loaded.session .shuttingDown s.bridge.guard loaded.real

def programContract : ProgramContract (Process.foreign S extra) (Conduct S.library.load fs old)
    (Conduct S.library.load fs old false) :=
  .ofDealings C.dealings
    { launch := C.launch_keeps
      launchWith := C.launchWith_keeps
      tick := C.tick_keeps
      dispatch := C.dispatch_keeps
      shutdown := C.shutdown_keeps }

end ConductContract
end HostBridge
