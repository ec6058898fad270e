import HostBridge.Proofs.JavaContract
import HostBridge.Proofs.SessionBlind

/-!
What the surroundings of a bridge in a process need in order to keep an invariant of what the bridge
holds. A session has no part in that but for its end, nor have the handlers, the sink and requests
for texts; so the invariant is kept by all calls of the interface that keep it by themselves.
-/
namespace HostBridge

open Exec

universe u

variable {N : Process} {α β : Type}

/-- A library whose functions are all of a sort. -/
structure Library.Each {m : Type → Type u} (p : {α : Type} → m α → Prop) (L : Library N m) :
    Prop where
  start : ∀ service port, p (L.start service port)
  loadScript : ∀ script packages, p (L.loadScript script packages)
  enterIsolate : ∀ i, p (L.enterIsolate i)
  exitIsolate : p L.exitIsolate
  shutdownIsolate : p L.shutdownIsolate
  enterScope : p L.enterScope
  exitScope : p L.exitScope
  rootLibrary : p L.rootLibrary
  invoke : ∀ name, p (L.invoke name)
  drain : p L.drain
  stop : p L.stop

theorem Library.Each.map {m : Type → Type u} {p : {α : Type} → m α → Prop}
    {q : {α : Type} → Exec N.platform α → Prop} {f : {α : Type} → m α → Exec N.platform α}
    {L : Library N m} (each : L.Each p) (hf : ∀ {α : Type} {x : m α}, p x → q (f x)) :
    (L.map f).Each q where
  start service port := hf (each.start service port)
  loadScript script packages := hf (each.loadScript script packages)
  enterIsolate i := hf (each.enterIsolate i)
  exitIsolate := hf each.exitIsolate
  shutdownIsolate := hf each.shutdownIsolate
  enterScope := hf each.enterScope
  exitScope := hf each.exitScope
  rootLibrary := hf each.rootLibrary
  invoke name := hf (each.invoke name)
  drain := hf each.drain
  stop := hf each.stop

/-- Surroundings whose code is all of a sort. -/
structure Process.Surroundings.Each {m : Type → Type u} (p : {α : Type} → m α → Prop)
    (S : Process.Surroundings N m) : Prop where
  java : S.java.Each p
  library : S.library.Each p
  handler : ∀ h k args, p (S.handler h k args)
  sink : ∀ s player text, p (S.sink s player text)

/-- In a run that makes all code of a sort, the surroundings are of that sort. -/
theorem Process.Surroundings.each_map {m : Type → Type u}
    {q : {α : Type} → Exec N.platform α → Prop} {f : {α : Type} → m α → Exec N.platform α}
    (S : Process.Surroundings N m) (h : ∀ {α : Type} (x : m α), q (f x)) : (S.map f).Each q where
  java := S.java.each_map h
  library := ⟨fun _ _ => h _, fun _ _ => h _, fun _ => h _, h _, h _, h _, h _, h _, fun _ => h _,
    h _, h _⟩
  handler _ _ _ := h _
  sink _ _ _ := h _

/-! ### The embedding library -/

/-- An invariant that the functions of a library keep, and in which it has no part whether the
library is loaded and which of its functions were called. -/
structure LibraryContract (L : Library N (Exec N.platform)) (I H : State N.platform → Prop) :
    Prop where
  each : L.Each fun x => Keeps I H x
  called : ∀ {s} (c : LibraryCall N.Isolate), I s →
    I { s with record := .signal (.library c) :: s.record }
  loaded : ∀ {s}, I s → I { s with ledger := { s.ledger with loaded := true } }

namespace LibraryContract

variable {L : Library N (Exec N.platform)} {I H : State N.platform → Prop}

theorem whenLoaded {x : Exec N.platform (Except VmError α)} (hx : Keeps I H x) :
    Keeps I H (LibraryVm.whenLoaded x) := by
  unfold LibraryVm.whenLoaded
  refine Keeps.gets.bind fun loaded => ?_
  split
  · exact hx
  · exact Keeps.pure

variable (C : LibraryContract L I H)
include C

theorem call {c : LibraryCall N.Isolate} {x : Exec N.platform α} (hx : Keeps I H x) :
    Keeps I H (LibraryVm.call c x) :=
  (Keeps.record fun _ => C.called c).bind fun _ => hx

theorem callIfLoaded {c : LibraryCall N.Isolate} {x : Exec N.platform Unit} (hx : Keeps I H x) :
    Keeps I H (LibraryVm.callIfLoaded c x) := by
  unfold LibraryVm.callIfLoaded
  refine Keeps.gets.bind fun loaded => ?_
  split
  · exact C.call hx
  · exact Keeps.pure

theorem ensureLoaded (path : Path) : Keeps I H (LibraryVm.ensureLoaded L path) := by
  unfold LibraryVm.ensureLoaded
  refine Keeps.gets.bind fun known => ?_
  split
  · exact Keeps.pure
  · refine Keeps.gets.bind fun files => ?_
    split
    · exact Keeps.pure
    · exact Keeps.bind (Keeps.modify fun _ => C.loaded) fun _ => Keeps.pure

theorem start (config : Config) : Keeps I H (LibraryVm.start L config) := by
  unfold LibraryVm.start
  refine (C.ensureLoaded _).bind fun r => ?_
  cases r with
  | error e => exact Keeps.pure
  | ok _ =>
    refine (C.call (C.each.start _ _)).bind fun started => ?_
    split
    · exact Keeps.pure
    · exact Keeps.pure

theorem loadImage (image : Image) : Keeps I H (LibraryVm.loadImage L image) := by
  refine whenLoaded ?_
  split
  · exact Keeps.pure
  · exact Keeps.pure
  · refine (C.call (C.each.loadScript _ _)).bind fun i => ?_
    split
    · exact Keeps.pure
    · exact Keeps.pure

theorem enterIsolate (i : N.Isolate) : Keeps I H (LibraryVm.enterIsolate L i) := by
  refine whenLoaded ?_
  split
  · exact Keeps.pure
  · exact (C.call (C.each.enterIsolate i)).bind fun _ => Keeps.pure

theorem entryPoint (name : String) : Keeps I H (LibraryVm.entryPoint L name) := by
  refine whenLoaded ?_
  split
  · exact Keeps.pure
  · refine (C.call C.each.rootLibrary).bind fun root => ?_
    split
    · exact Keeps.pure
    · refine (C.call (C.each.invoke name)).bind fun answer => ?_
      split
      · exact Keeps.pure
      · exact Keeps.pure

theorem drainQueue : Keeps I H (LibraryVm.drainQueue L) := by
  refine whenLoaded ((C.call C.each.drain).bind fun answer => ?_)
  split
  · exact Keeps.pure
  · exact Keeps.pure

theorem endIsolate (i : N.Isolate) : Keeps I H (LibraryVm.endIsolate L i) := by
  unfold LibraryVm.endIsolate
  refine Keeps.gets.bind fun loaded => ?_
  split
  · exact (C.call (C.each.enterIsolate i)).bind fun _ => C.call C.each.shutdownIsolate
  · exact Keeps.pure

end LibraryContract

/-! ### Surroundings -/

/-- Surroundings that keep an invariant of what a bridge holds, in which the embedding library has
no part. -/
structure ProcessContract (S : Process.Surroundings N (Exec N.platform))
    (I H : State N.platform → Prop) (handed : {α : Type} → Pin α → State N.platform → Prop) : Prop
    extends JavaContract S.java I H handed where
  beside : ∀ {s t}, I s → s.holdings = t.holdings → I t
  halts : ∀ s, I s → H s
  library : S.library.Each fun x => Keeps I H x
  handler : ∀ h k args, Keeps I H (S.handler h k args)
  sink : ∀ s player text, Keeps I H (S.sink s player text)

namespace ProcessContract

variable {S : Process.Surroundings N (Exec N.platform)} {I H : State N.platform → Prop}
  {handed : {α : Type} → Pin α → State N.platform → Prop} (C : ProcessContract S I H handed)
include C

theorem record (e : Happening N.platform) : Keeps I H (Exec.record e) :=
  Keeps.record fun _ h => C.beside h rfl

theorem embedded : LibraryContract S.library I H where
  each := C.library
  called _ h := C.beside h rfl
  loaded h := C.beside h rfl

/-! ### Calls of the interface -/

variable {extra : {α : Type} → N.Extra α → Exec N.platform α}

theorem blind : UseBlind (Process.foreign S extra) I H where
  memory _ h := C.beside h rfl
  report _ h := C.beside h rfl
  halts := C.halts
  session _ _ _ _ h := C.beside h rfl
  vmCall _ _ h := C.beside h rfl
  callStart _ h := C.beside h rfl
  vmReturn _ h := C.beside h rfl
  start := C.embedded.start
  loadImage := C.embedded.loadImage
  enterIsolate := C.embedded.enterIsolate
  exitIsolate := C.embedded.callIfLoaded C.library.exitIsolate
  enterScope := C.embedded.callIfLoaded C.library.enterScope
  exitScope := C.embedded.callIfLoaded C.library.exitScope
  entryPoint := C.embedded.entryPoint
  drain := C.embedded.drainQueue
  shutdownIsolate := C.embedded.endIsolate
  stop := C.embedded.callIfLoaded C.library.stop
  handler h k args := (C.record _).bind fun _ => C.handler h k args

/-- What is about members is left; of all else only a shutdown and the calls that are about objects
have to do with what a bridge holds. -/
theorem interface (about : ∀ {β : Type} (o : Op N.platform β), o.key?.isSome = true →
    Keeps I H (o.run (Process.foreign S extra))) :
    InterfaceContract (Process.foreign S extra) I H :=
  .ofBlind C.blind (fun _ _ h => C.beside h rfl) (fun _ h => C.beside h rfl)
    (fun s player text => (C.record _).bind fun _ => C.sink s player text) about

end ProcessContract
end HostBridge
