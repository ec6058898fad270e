import HostBridge.Proofs.IsolateEntries
import HostBridge.Proofs.LibraryCalls
import HostBridge.Proofs.ReferencesConserved

/-!
No call into the VM is left out. A bridge that begins with nothing runs programs in rounds, between
which files may come and go. Starts that fail to find the library leave it unloaded; the first one
that finds it does so with all its names, and the calls of the library begin there. Every call into
the VM is then carried out, and while a session runs, events and ticks get into the isolate.
-/
namespace HostBridge

open Exec

/-! ### Rounds -/

section
variable {P : Platform}

/-- A program and the thread that runs it, with the files that it finds. -/
structure Round (P : Platform) where
  files : FileSystem
  thread : ThreadId
  program : Act P Unit

/-- What the program of a round starts from. -/
def Round.begin (r : Round P) (s : State P) : State P :=
  { s with files := r.files, thread := r.thread }

namespace System

variable {S : System P} {limit : Nat} {I H : State P → Prop}

/-- Rounds one after another, up to the first whose program does not come back. -/
def runRounds (S : System P) (limit : Nat) : List (Round P) → State P → State P
  | [], s => s
  | r :: rest, s =>
    match S.exec limit r.program (r.begin s) with
    | (.halt _, s) => s
    | (_, s) => S.runRounds limit rest s

theorem runRounds_cons {r : Round P} {rest : List (Round P)} {s t : State P}
    (ran : S.exec limit r.program (r.begin s) = (.value (), t)) :
    S.runRounds limit (r :: rest) s = S.runRounds limit rest t := by
  rw [runRounds, ran]

/-- What every round makes of its start holds of the last one. That one may not come to run, so it
has to hold of states, too, in which nothing happens. -/
theorem runRounds_last (halts : ∀ s, I s → H s) {A : Round P → State P → State P → Prop}
    {before : List (Round P)} {last : Round P}
    (runs : ∀ r ∈ before ++ [last], ∀ s, I s → Triple (· = r.begin s) (S.exec limit r.program)
      (fun _ t => I t ∧ A r s t) (fun t => I t ∧ A r s t) fun t => H t ∧ A r s t)
    (stays : ∀ t, H t → A last t t) {s : State P} (hs : I s) :
    H (S.runRounds limit (before ++ [last]) s) ∧
      A last (S.runRounds limit before s) (S.runRounds limit (before ++ [last]) s) := by
  -- From the first round on, so that one that halts is seen to leave the last one out.
  induction before generalizing s with
  | nil =>
    have ran := runs last (by simp) s hs _ rfl
    simp only [List.nil_append, runRounds]
    rcases hrun : S.exec limit last.program (last.begin s) with ⟨r | m | w, t⟩ <;> rw [hrun] at ran
    · exact ⟨halts t ran.1, ran.2⟩
    · exact ⟨halts t ran.1, ran.2⟩
    · exact ran
  | cons r rest ih =>
    have ran := runs r (by simp) s hs _ rfl
    have later := @ih fun r' mem => runs r' (List.mem_cons_of_mem r mem)
    simp only [List.cons_append, runRounds]
    rcases hrun : S.exec limit r.program (r.begin s) with ⟨r | m | w, t⟩ <;> rw [hrun] at ran
    · exact later ran.1
    · exact later ran.1
    · exact ⟨ran.1, stays t ran.1⟩

/-- What every program keeps, and other files and threads too, holds after any rounds. -/
theorem runRounds_keeps (halts : ∀ s, I s → H s)
    (begins : ∀ s (r : Round P), I s → I (r.begin s))
    (kept : ∀ a : Act P Unit, Keeps I H (S.exec limit a)) (before : List (Round P))
    (last : Round P) {s : State P} (hs : I s) : H (S.runRounds limit (before ++ [last]) s) := by
  have runs (r : Round P) (s : State P) (h : I s) : Triple (· = r.begin s)
      (S.exec limit r.program) (fun _ t => I t ∧ True) (fun t => I t ∧ True) fun t => H t ∧ True :=
    (kept r.program).conseq (by rintro _ rfl; exact begins s r h) (fun _ _ h => ⟨h, trivial⟩)
      (fun _ h => ⟨h, trivial⟩) fun _ h => ⟨h, trivial⟩
  exact (runRounds_last halts (A := fun _ _ _ => True) (fun r _ => runs r) (fun _ _ => trivial)
    hs).1

end System
end

/-! ### The first use -/

variable {N : Process}

namespace Orderly

variable {load : Loader} {files : FileSystem} {old trace : List (LibraryEvent N)}

/-- What is said of all events is said of those up to some point. -/
theorem upTo {earlier : List (LibraryEvent N)} (h : Orderly load files old trace)
    (part : earlier <:+ trace) (grown : old <:+ earlier) : Orderly load files old earlier where
  grown := grown
  admitted e rest before := h.admitted e rest (before.trans part)

/-- The calls of the library begin with a start that found it. -/
theorem firstUse (h : Orderly load files old trace) (unused : ¬ Used old) (used : Used trace) :
    ∃ config earlier, load files config.vmLibrary = .ok () ∧ ¬ Used earlier ∧
      .answer (.start config) :: .asked (.start config) :: earlier <:+ trace := by
  obtain ⟨new, rfl⟩ := h.grown
  induction new with
  | nil => exact absurd used unused
  | cons e new ih =>
    have tail : new ++ old <:+ e :: (new ++ old) := List.suffix_cons e _
    have grown : old <:+ new ++ old := List.suffix_append new old
    by_cases sooner : Used (new ++ old)
    · obtain ⟨config, earlier, found, first, there⟩ := ih (h.upTo tail grown) sooner
      exact ⟨config, earlier, found, first, there.trans tail⟩
    · -- Nothing was called before, so the newest event is the first call.
      obtain ⟨c, mem⟩ := used
      rcases List.mem_cons.mp mem with rfl | mem
      · have admitted := h.admitted (.called c) (new ++ old) List.suffix_rfl grown
        rcases admitted.loaded c rfl with before | ⟨config, newest, found⟩
        · exact absurd before sooner
        · obtain ⟨earlier, is⟩ := List.head?_eq_some_iff.mp newest
          have first : ¬ Used earlier := fun ⟨k, mem⟩ =>
            sooner ⟨k, is ▸ List.mem_cons_of_mem _ mem⟩
          have answer : .called c = (.answer (.start config) : LibraryEvent N) := by
            cases admitted.replies _ newest with
            | loaded _ before => exact absurd before sooner
            | found => rfl
          refine ⟨config, earlier, found, first, ?_⟩
          rw [← answer, ← is]
          exact List.suffix_rfl
      · exact absurd ⟨c, mem⟩ sooner

end Orderly

universe u

/-- The calls of a library begin with the start that loads it: under the path that this names, and
among files of some sort, something was found that exports all names. -/
def Library.LoadedFirst {m : Type → Type u} (L : Library N m) (seen : FileSystem → Prop)
    (trace : List (LibraryEvent N)) : Prop :=
  Used trace → ∃ config fs exported earlier, seen fs ∧
    L.find fs config.vmLibrary = some exported ∧ (∀ name ∈ Library.symbols, exported name = true) ∧
    ¬ Used earlier ∧ .answer (.start config) :: .asked (.start config) :: earlier <:+ trace

theorem Library.LoadedFirst.grow {m : Type → Type u} {L : Library N m} {seen : FileSystem → Prop}
    {files : FileSystem} {old trace : List (LibraryEvent N)} (h : L.LoadedFirst seen old)
    (saw : seen files) (orderly : Orderly L.load files old trace) : L.LoadedFirst seen trace := by
  intro used
  by_cases before : Used old
  · obtain ⟨config, fs, exported, earlier, saw, found, all, first, there⟩ := h before
    exact ⟨config, fs, exported, earlier, saw, found, all, first, there.trans orderly.grown⟩
  · obtain ⟨config, earlier, loads, first, there⟩ := orderly.firstUse before used
    obtain ⟨exported, found, all⟩ := L.load_ok_iff.mp loads
    exact ⟨config, files, exported, earlier, saw, found, all, first, there⟩

/-! ### Bridges in a process -/

namespace Process

variable {S : Surroundings N (Act N.platform)} {extra : {α : Type} → N.Extra α → Act N.platform α}
  {limit : Nat} {fs : FileSystem} {old : List (LibraryEvent N)}

theorem conductContract (run : ∀ {β : Type} (b : Act N.platform β) needed,
      Keeps (Conduct S.library.load fs old needed) (Conduct S.library.load fs old false)
        ((system S extra).exec limit b)) :
    ConductContract (S.map fun b => (system S extra).exec limit b)
      (fun o => (system S extra).exec limit (extra o)) fs old where
  each needed := S.each_map fun b => run b needed
  extra needed _ o := run (extra o) needed

/-- Every program keeps to what may come after a call into the VM. -/
theorem exec_conducts {α : Type} (limit : Nat) (a : Act N.platform α) (needed : Bool) :
    Keeps (Conduct S.library.load fs old needed) (Conduct S.library.load fs old false)
      ((system S extra).exec limit a) :=
  System.exec_keeps (I := Conduct S.library.load fs old) (fun _ _ h => h.weaken)
    (fun _ run => (conductContract fun b needed => run b needed).programContract) limit a needed

/-- What a bridge is like between rounds. -/
structure BetweenRounds (S : Surroundings N (Act N.platform)) (seen : FileSystem → Prop)
    (s : State N.platform) : Prop where
  conduct : ∃ fs old, Conduct S.library.load fs old false s
  loadedFirst : S.library.LoadedFirst seen s.libraryTrace

/-- A bridge that begins with nothing. -/
theorem betweenRounds_of_new {seen : FileSystem → Prop} {s : State N.platform} (new : s.bridge = {})
    (unrecorded : s.record = []) (unloaded : s.ledger.loaded = false) : BetweenRounds S seen s := by
  have silent : s.libraryTrace = [] := by rw [State.libraryTrace, unrecorded]; rfl
  have unused : ¬ Used s.libraryTrace := by
    rw [silent]
    rintro ⟨c, mem⟩
    cases mem
  refine ⟨⟨s.files, s.libraryTrace, false, ?_, fun _ => ?_⟩, fun used => absurd used unused⟩
  · exact {
      files := rfl
      orderly := .refl
      pending := by
        show s.libraryTrace.head?.bind _ = none
        rw [silent]
        rfl
      loaded := unloaded
      used := iff_of_false unused Bool.false_ne_true
      real := by
        intro i isolate
        have none : s.bridge.isolate = none := by rw [new]
        cases none.symm.trans isolate }
  · show s.bridge.phase = .uninitialized
    rw [new]

/-- With other files a bridge keeps to it from there on. -/
theorem BetweenRounds.begin {seen : FileSystem → Prop} {s : State N.platform}
    (h : BetweenRounds S seen s) (r : Round N.platform) :
    Conduct S.library.load r.files s.libraryTrace false (r.begin s) := by
  obtain ⟨⟨fs, old, b, kept, idle⟩, -⟩ := h
  exact ⟨b, { kept with files := rfl, orderly := .refl }, idle⟩

/-- A round does what has to come after each call into the VM. -/
theorem BetweenRounds.round {seen : FileSystem → Prop} {s : State N.platform}
    (h : BetweenRounds S seen s) {r : Round N.platform} (saw : seen r.files) (limit : Nat) :
    let after (t : State N.platform) :=
      BetweenRounds S seen t ∧ Orderly S.library.load r.files s.libraryTrace t.libraryTrace
    Triple (· = r.begin s) ((system S extra).exec limit r.program) (fun _ => after) after
      after := by
  intro after
  have ended (t : State N.platform)
      (kept : Conduct S.library.load r.files s.libraryTrace false t) : after t := by
    obtain ⟨b, conducted, -⟩ := id kept
    exact ⟨⟨⟨_, _, kept⟩, h.loadedFirst.grow saw conducted.orderly⟩, conducted.orderly⟩
  refine (exec_conducts limit r.program false).conseq ?_ (fun _ => ended) ended ended
  rintro _ rfl
  exact h.begin r

/-- Nothing of the VM is ever left out by a bridge that begins with nothing, whatever the library
does and whatever programs use it, on whatever threads.

In each round a call into the VM is followed at once by the call of the library that it stands for,
and no call fails for want of that. Before the library is loaded there is only the start, which
looks for it under its own path. The calls of the library begin with the start that first found it
with all its names, and a bridge has it loaded from there on: in every session, then. Programs may
halt anywhere, also in the middle of what foreign code does, so all this holds at any point.

If the library enters and leaves isolates by itself, whoever comes with an event or a tick while a
session runs gets in, but for the time that this takes. -/
theorem calls_carriedOut (S : Surroundings N (Act N.platform))
    (extra : {α : Type} → N.Extra α → Act N.platform α) (limit : Nat)
    (before : List (Round N.platform)) (last : Round N.platform) {s : State N.platform}
    (new : s.bridge = {}) (unrecorded : s.record = []) (unloaded : s.ledger.loaded = false) :
    let u := (system S extra).runRounds limit before s
    let t := (system S extra).runRounds limit (before ++ [last]) s
    Orderly S.library.load last.files u.libraryTrace t.libraryTrace ∧
    (∀ c, t.libraryTrace.head? ≠ some (.asked c)) ∧
    S.library.LoadedFirst (fun fs => ∃ r ∈ before ++ [last], r.files = fs) t.libraryTrace ∧
    (t.ledger.loaded = true ↔ Used t.libraryTrace) ∧
    (t.bridge.phase ≠ .uninitialized → t.ledger.loaded = true) ∧
    ((∀ i, (S.library.enterIsolate i).IsQuiet) → S.library.exitIsolate.IsQuiet →
      t.bridge.phase = .running → ¬ t.Switching →
      ∀ depth, LetsIn ((system S extra).foreign (depth + 1)) t) := by
  intro u t
  let seen (fs : FileSystem) : Prop := ∃ r ∈ before ++ [last], r.files = fs
  obtain ⟨⟨⟨fs, old, b, kept, idle⟩, first⟩, orderly⟩ :=
    System.runRounds_last (S := system S extra) (I := BetweenRounds S seen)
      (A := fun r s t => Orderly S.library.load r.files s.libraryTrace t.libraryTrace)
      (fun _ h => h) (fun r mem s h => h.round ⟨r, mem, rfl⟩ limit) (fun _ _ => .refl)
      (betweenRounds_of_new new unrecorded unloaded)
  have loaded : t.ledger.loaded = b := kept.loaded
  have begun : t.bridge.phase ≠ .uninitialized → t.ledger.loaded = true := by
    intro begun
    rw [loaded]
    by_contra unloaded
    exact begun (idle (Bool.eq_false_iff.mpr unloaded))
  refine ⟨orderly, fun c newest => ?_, first, ?_, begun,
    fun entries leaves running calm depth => ?_⟩
  · cases kept.head newest
  · rw [loaded]
    exact kept.used.symm
  · have pause : Momentary t := System.runRounds_keeps (I := On Footing.outside.Holds)
      (fun _ h => h.isPause) (fun _ _ h => h) (fun a => exec_keepsFooting leaves limit a .outside)
      before last (Footing.outside_of_new new unrecorded)
    exact letsIn entries pause running calm (begun (by rw [running]; nofun)) kept.real depth

end Process

/-! ### A library that is found at the second attempt -/

namespace Plain

/-- A process whose loader comes upon the library under its name. -/
def hosting : Process.Surroundings process (Act process.platform) :=
  { unruly with
    library := { idleLibrary with
      exports := fun _ => some fun _ => true
      search := fun _ name => if name = "libdart_dll.so" then some [] else none } }

def hostingSystem : System process.platform := Process.system hosting fun o => nomatch o

/-- Settings that name a library. -/
def naming (library : Path) : Config :=
  { vmLibrary := library, packageConfig := some ⟨"packages"⟩ }

/-- A launch of the image by such settings. -/
def launchFrom (library : Path) : Round process.platform where
  files := start.files
  thread := 0
  program := (Act.op (.launchWith imagePath (naming library))).bind fun _ => pure ()

def unused : State process.platform where
  ledger := {}
  world := ()

def image : Image := ⟨imagePath, ⟨"packages"⟩, Hex.ofBytes (Sha256.digest [])⟩

/-- What the launch is once the image is open. -/
def bringUp (library : Path) : Exec process.platform Unit := do
  match ← Lifecycle.start (hostingSystem.foreign 1) image (naming library) with
  | .error _ => pure ()
  | .ok () => Exec.update fun b => { b with serviceUrl := (naming library).serviceUrl }

theorem launchFrom_runs (library : Path) (s : State process.platform) :
    hostingSystem.exec 2 (launchFrom library).program ((launchFrom library).begin s) =
      bringUp library ((launchFrom library).begin s) := by
  have read : start.files.read imagePath = .ok [] := rfl
  have opened : Image.open? start.files imagePath (naming library) = .ok image := by
    unfold Image.open?
    rw [read]
    rfl
  change (Lifecycle.launchWith (hostingSystem.foreign 1) imagePath (naming library) >>=
    fun _ => pure ()) _ = _
  unfold Lifecycle.launchWith bringUp
  rw [Exec.run_bind, Exec.run_bind, Exec.run_gets]
  simp only [show ((launchFrom library).begin s).files = start.files from rfl, opened]
  rw [Exec.run_bind, Exec.run_bind]
  rcases Lifecycle.start _ image _ ((launchFrom library).begin s) with ⟨r | m | w, t⟩
  · cases r <;> rfl
  · rfl
  · rfl

/-- Under the first name there is no library, and under the second one there is. -/
theorem hosting_runs :
    let missing := launchFrom ⟨"missing.so"⟩
    let there := launchFrom ⟨"libdart_dll.so"⟩
    let t := hostingSystem.runRounds 2 ([missing] ++ [there]) unused
    (hostingSystem.runRounds 2 [missing] unused).libraryTrace =
      [.returned (.failed (.library ⟨"missing.so"⟩)), .asked (.start (naming ⟨"missing.so"⟩))] ∧
    t.ledger.loaded = true ∧ t.bridge.phase = .running ∧ t.bridge.guard = {} := by
  intro missing there t
  let u := (bringUp ⟨"missing.so"⟩ (missing.begin unused)).2
  have first : hostingSystem.exec 2 missing.program (missing.begin unused) = (.value (), u) :=
    launchFrom_runs ⟨"missing.so"⟩ unused
  let v := (bringUp ⟨"libdart_dll.so"⟩ (there.begin u)).2
  have ended : (bringUp ⟨"libdart_dll.so"⟩ (there.begin u)).1 = .value () := by decide +kernel
  have second : hostingSystem.exec 2 there.program (there.begin u) = (.value (), v) :=
    (launchFrom_runs ⟨"libdart_dll.so"⟩ u).trans (Prod.ext ended rfl)
  have twice : t = v := (System.runRounds_cons first).trans (System.runRounds_cons second)
  have outcome : v.ledger.loaded = true ∧ v.bridge.phase = .running ∧ v.bridge.guard = {} := by
    decide +kernel
  rw [System.runRounds_cons first, twice]
  exact ⟨rfl, outcome⟩

end Plain

namespace Process

/-- The second start finds the library, and the first event gets in. -/
theorem calls_carriedOut_hosting :
    let missing := Plain.launchFrom ⟨"missing.so"⟩
    let there := Plain.launchFrom ⟨"libdart_dll.so"⟩
    let u := Plain.hostingSystem.runRounds 2 [missing] Plain.unused
    let t := Plain.hostingSystem.runRounds 2 ([missing] ++ [there]) Plain.unused
    (∀ i, (Plain.hosting.library.enterIsolate i).IsQuiet) ∧
      Plain.hosting.library.exitIsolate.IsQuiet ∧ Plain.unused.bridge = {} ∧
      Plain.unused.record = [] ∧ Plain.unused.ledger.loaded = false ∧
      u.libraryTrace = [.returned (.failed (.library ⟨"missing.so"⟩)),
        .asked (.start (Plain.naming ⟨"missing.so"⟩))] ∧
      t.bridge.phase = .running ∧ ¬ t.Switching ∧ Used t.libraryTrace ∧
      LetsIn (Plain.hostingSystem.foreign 1) t := by
  intro missing there u t
  obtain ⟨missed, loaded, running, free⟩ := Plain.hosting_runs
  have calm : ¬ t.Switching := fun h => h.1 free
  obtain ⟨-, -, -, used, -, gets⟩ := calls_carriedOut Plain.hosting (fun o => nomatch o) 2 [missing]
    there (s := Plain.unused) rfl rfl rfl
  exact ⟨fun _ => trivial, trivial, rfl, rfl, rfl, missed, running, calm, used.mp loaded,
    gets (fun _ => trivial) trivial running calm 0⟩

end Process
end HostBridge
