import HostBridge.Proofs.DealingsContract

/-!
What stands on record between a bridge, its VM and the embedding library. A call into the VM is
followed at once by the call of the library that it stands for; only a start may come before the
library is loaded, and then it is followed by the load of the library that it names. This module
says so of one event after those before it, and what a bridge that keeps to it has on record.
-/
namespace HostBridge

open Exec

variable {N : Process} {α : Type}

/-! ### Failures -/

/-- A failure that says that the library was not called although it should have been. -/
def VmError.skips : VmError → Bool
  | .notLoaded | .enterFailed _ => true
  | _ => false

namespace Library

universe u

variable {m : Type → Type u} (L : Library N m) {fs : FileSystem} {path : Path}

/-- What was loaded exports all names that are looked for. -/
theorem load_ok_iff : L.load fs path = .ok () ↔
    ∃ exported, L.find fs path = some exported ∧ ∀ name ∈ symbols, exported name = true := by
  unfold load
  cases L.find fs path with
  | none => simp
  | some exported =>
    dsimp only
    split
    case h_1 name missing =>
      have lacks : ∃ name ∈ symbols, exported name = false :=
        ⟨name, List.mem_of_find?_eq_some missing, by simpa using List.find?_some missing⟩
      simpa using lacks
    case h_2 missing => simpa using missing

theorem load_skips {e : VmError} (failed : L.load fs path = .error e) : e.skips = false := by
  unfold load at failed
  split at failed
  · cases failed
    rfl
  · split at failed
    · cases failed
      rfl
    · cases failed

end Library

theorem LibraryVm.passable_skips {path : Path} {e : VmError} (refused : passable path = .error e) :
    e.skips = false := by
  unfold passable at refused
  split at refused
  · cases refused
    rfl
  · cases refused

/-! ### One event after others -/

/-- Some function of the library was called. -/
def Used (trace : List (LibraryEvent N)) : Prop := ∃ c, .called c ∈ trace

namespace LibraryEvent

/-- What comes right after a call into the VM if the library is loaded: the call of the library that
it stands for, unless a text in it cannot be passed on. -/
def answer : VmCall N.platform → LibraryEvent N
  | .start config => .called (.start config.startServiceIsolate config.servicePort)
  | .loadImage image =>
    match LibraryVm.passable image.path, LibraryVm.passable image.packages with
    | .error e, _ | .ok _, .error e => .returned (.failed e)
    | .ok script, .ok packages => .called (.loadScript script packages)
  | .enterIsolate i => .called (.enterIsolate i)
  | .exitIsolate => .called .exitIsolate
  | .enterScope => .called .enterScope
  | .exitScope => .called .exitScope
  | .entryPoint name =>
    if name.toList.contains '\x00' then .returned (.failed (.entryPointMissing name))
    else .called .rootLibrary
  | .drain => .called .drain
  | .shutdownIsolate i => .called (.enterIsolate i)
  | .stop => .called .stop

/-- The call into the VM that an event is. -/
def call? : LibraryEvent N → Option (VmCall N.platform)
  | .asked c => some c
  | _ => none

end LibraryEvent

/-- How the library is looked for. -/
abbrev Loader := FileSystem → Path → Except VmError Unit

section
variable (load : Loader) (files : FileSystem)

/-- What may come right after a call into the VM. Before the library is loaded nothing but a start
is called; it looks for the library under its own path. -/
inductive Replies (used : Prop) : VmCall N.platform → LibraryEvent N → Prop where
  | loaded (c : VmCall N.platform) : used → Replies used c (.answer c)
  | found (config : Config) : ¬ used → load files config.vmLibrary = .ok () →
      Replies used (.start config) (.answer (.start config))
  | missing (config : Config) (e : VmError) : ¬ used → load files config.vmLibrary = .error e →
      Replies used (.start config) (.returned (.failed e))

/-- An event that may come after those before it, the newest of which stands first. -/
structure Admitted (earlier : List (LibraryEvent N)) (e : LibraryEvent N) : Prop where
  replies : ∀ c, earlier.head? = some (.asked c) → Replies load files (Used earlier) c e
  /-- A library with all that is looked for was loaded before, be it just now. -/
  loaded : ∀ c, e = .called c → Used earlier ∨ ∃ config,
    earlier.head? = some (.asked (.start config)) ∧ load files config.vmLibrary = .ok ()
  real : ∀ i, e = .called (.enterIsolate i) → N.isNull i = false
  /-- No call fails because the library was not called. -/
  carried : ∀ error, e = .returned (.failed error) → error.skips = false

/-- All events are admitted that came after some old ones. -/
structure Orderly (old trace : List (LibraryEvent N)) : Prop where
  grown : old <:+ trace
  admitted : ∀ e earlier, e :: earlier <:+ trace → old <:+ earlier → Admitted load files earlier e

end

namespace Orderly

variable {load : Loader} {files : FileSystem} {old trace : List (LibraryEvent N)}
  {e : LibraryEvent N}

theorem refl : Orderly load files old old where
  grown := List.suffix_rfl
  admitted e earlier later before := by
    have shorter := before.length_le
    have longer := later.length_le
    rw [List.length_cons] at longer
    omega

theorem add (h : Orderly load files old trace) (admitted : Admitted load files trace e) :
    Orderly load files old (e :: trace) where
  grown := h.grown.trans (List.suffix_cons e trace)
  admitted e' earlier later before := by
    rcases List.suffix_cons_iff.mp later with same | inside
    · obtain ⟨rfl, rfl⟩ := List.cons.inj same
      exact admitted
    · exact h.admitted e' earlier inside before

end Orderly

/-! ### Bridges that keep to it -/

/-- What a bridge has on record whose library is loaded or not, with a call into the VM that nothing
came after yet, if any. -/
structure Conducted (load : Loader) (fs : FileSystem) (old : List (LibraryEvent N)) (b : Bool)
    (c : Option (VmCall N.platform)) (d : Dealings N) : Prop where
  files : d.files = fs
  orderly : Orderly load fs old d.trace
  pending : d.trace.head?.bind LibraryEvent.call? = c
  loaded : d.loaded = b
  used : Used d.trace ↔ b = true
  real : ∀ i, d.isolate = some i → N.isNull i = false

namespace Conducted

variable {load : Loader} {fs : FileSystem} {old : List (LibraryEvent N)} {b : Bool}
  {c : Option (VmCall N.platform)} {d : Dealings N} {e : LibraryEvent N}

theorem head (h : Conducted load fs old b c d) {k : VmCall N.platform}
    (newest : d.trace.head? = some (.asked k)) : c = some k := by
  rw [← h.pending, newest]
  rfl

/-- An event that is admitted leaves a bridge that keeps to it. -/
theorem add (h : Conducted load fs old b c d) (admitted : Admitted load fs d.trace e)
    (used : ∀ l, e = .called l → b = true) : Conducted load fs old b e.call? (d.add e) where
  files := h.files
  orderly := h.orderly.add admitted
  pending := rfl
  loaded := h.loaded
  used := by
    refine Iff.trans ⟨?_, ?_⟩ h.used
    · rintro ⟨l, mem⟩
      rcases List.mem_cons.mp mem with rfl | earlier
      · exact h.used.mpr (used l rfl)
      · exact ⟨l, earlier⟩
    · rintro ⟨l, mem⟩
      exact ⟨l, List.mem_cons_of_mem e mem⟩
  real := h.real

/-- The VM may be called whenever nothing is pending. -/
theorem ask (h : Conducted load fs old b none d) (k : VmCall N.platform) :
    Conducted load fs old b (some k) (d.add (.asked k)) := by
  refine h.add (e := .asked k) ⟨fun _ newest => ?_, nofun, nofun, nofun⟩ nofun
  cases h.head newest

/-- What comes after a call into the VM. -/
theorem answer {k : VmCall N.platform} (h : Conducted load fs old true (some k) d)
    (is : LibraryEvent.answer k = e) (nothing : e.call? = none)
    (real : ∀ i, e = .called (.enterIsolate i) → N.isNull i = false)
    (carried : ∀ error, e = .returned (.failed error) → error.skips = false) :
    Conducted load fs old true none (d.add e) := by
  have used : Used d.trace := h.used.mpr rfl
  rw [← nothing]
  refine h.add ⟨fun j newest => ?_, fun _ _ => .inl used, real, carried⟩ fun _ _ => rfl
  cases h.head newest
  exact is ▸ .loaded k used

/-- The library may be called once more. -/
theorem call (h : Conducted load fs old true none d) {l : LibraryCall N.Isolate}
    (real : ∀ i, l = .enterIsolate i → N.isNull i = false) :
    Conducted load fs old true none (d.add (.called l)) := by
  have used : Used d.trace := h.used.mpr rfl
  refine h.add (e := .called l) ⟨fun j newest => ?_, fun _ _ => .inl used, ?_, nofun⟩ fun _ _ => rfl
  · cases h.head newest
  · rintro i ⟨⟩
    exact real i rfl

/-- A call into the VM comes back. -/
theorem back (h : Conducted load fs old b none d) {r : VmReturn N.platform}
    (carried : ∀ error, r = .failed error → error.skips = false) :
    Conducted load fs old b none (d.add (.returned r)) := by
  refine h.add (e := .returned r) ⟨fun _ newest => ?_, nofun, nofun, ?_⟩ nofun
  · cases h.head newest
  · rintro error ⟨⟩
    exact carried error rfl

section
variable {config : Config} (h : Conducted load fs old false (some (.start config)) d)
include h

/-- A start that does not find the library fails, and the library is not loaded. -/
theorem miss {error : VmError} (lacks : load fs config.vmLibrary = .error error)
    (own : error.skips = false) :
    Conducted load fs old false none (d.add (.returned (.failed error))) := by
  have unused : ¬ Used d.trace := fun used => nomatch h.used.mp used
  refine h.add (e := .returned (.failed error)) ⟨fun _ newest => ?_, nofun, nofun, ?_⟩ nofun
  · cases h.head newest
    exact .missing config error unused lacks
  · rintro _ ⟨⟩
    exact own

/-- A start that finds the library loads and starts it. -/
theorem find (found : load fs config.vmLibrary = .ok ()) :
    Conducted load fs old true none (Dealings.add { d with loaded := true }
      (.called (.start config.startServiceIsolate config.servicePort))) where
  files := h.files
  orderly := by
    have unused : ¬ Used d.trace := fun used => nomatch h.used.mp used
    refine h.orderly.add ⟨fun _ newest => ?_, fun _ _ => .inr ⟨config, ?_, found⟩, nofun, nofun⟩
    · cases h.head newest
      exact .found config unused found
    · have pending := h.pending
      cases newest : d.trace.head? with
      | none =>
        rw [newest] at pending
        cases pending
      | some e =>
        rw [newest] at pending
        cases e <;> cases pending
        rfl
  pending := rfl
  loaded := rfl
  used := iff_of_true ⟨_, List.mem_cons_self⟩ rfl
  real := h.real

end
end Conducted
end HostBridge
