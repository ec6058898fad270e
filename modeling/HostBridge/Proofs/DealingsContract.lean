import HostBridge.Proofs.Footing
import HostBridge.Proofs.ProcessContract
import HostBridge.Proofs.VmDiscipline

/-!
Invariants of the dealings of a bridge with its VM. In a process the Java VM has no part in them,
nor have handles, members, memory and reports; what is left is the session, the files, and what was
said between the bridge, its VM and the embedding library.
-/
namespace HostBridge

open Exec

variable {N : Process} {α : Type}

/-! ### Dealings -/

/-- How far the session is, and what was said between a bridge, its VM and the embedding library,
the newest event first. -/
structure Dealings (N : Process) where
  phase : Phase
  guard : Guard
  isolate : Option N.Isolate
  thread : ThreadId
  files : FileSystem
  loaded : Bool
  trace : List (LibraryEvent N)

/-- The same dealings after one more event. -/
def Dealings.add (d : Dealings N) (e : LibraryEvent N) : Dealings N :=
  { d with trace := e :: d.trace }

/-- The same dealings after an isolate was entered. -/
def Dealings.entered (d : Dealings N) (i : N.Isolate) : Dealings N :=
  ((d.add (.asked (.enterIsolate i))).add (.called (.enterIsolate i))).add (.returned .done)

/-- An event between a bridge and the library as one between a bridge and its VM. -/
def LibraryEvent.vmEvent? : LibraryEvent N → Option (VmEvent N.platform)
  | .asked c => some (.inl c)
  | .returned r => some (.inr r)
  | .called _ => none

/-- What the calls into the VM are told by. -/
def Dealings.stance (d : Dealings N) : Stance N.platform :=
  ⟨d.phase, d.guard, d.isolate, d.thread, d.trace.reverse.filterMap LibraryEvent.vmEvent?⟩

namespace State

def dealings (s : State N.platform) : Dealings N where
  phase := s.bridge.phase
  guard := s.bridge.guard
  isolate := s.bridge.isolate
  thread := s.thread
  files := s.files
  loaded := s.ledger.loaded
  trace := s.libraryTrace

variable (s : State N.platform) {e : Happening N.platform}

theorem dealings_record {l : LibraryEvent N} (seen : e.libraryEvent? = some l) :
    ({ s with record := e :: s.record } : State N.platform).dealings = s.dealings.add l := by
  rw [dealings, libraryTrace_record, seen]
  rfl

theorem dealings_recordOther (other : e.libraryEvent? = none) :
    ({ s with record := e :: s.record } : State N.platform).dealings = s.dealings := by
  rw [dealings, libraryTrace_record, other]
  rfl

theorem dealings_of_engine {s t : State N.platform} (same : s.engine = t.engine) :
    s.dealings = t.dealings :=
  congrArg (fun e : Bridge N.platform × ThreadId × FileSystem × Bool × List (LibraryEvent N) =>
    Dealings.mk e.1.phase e.1.guard e.1.isolate e.2.1 e.2.2.1 e.2.2.2.1 e.2.2.2.2) same

theorem stance_dealings : s.dealings.stance = s.stance := by
  have seen (e : Happening N.platform) :
      e.libraryEvent?.bind LibraryEvent.vmEvent? = e.vmEvent? := by
    cases e with
    | signal x => cases x <;> rfl
    | _ => rfl
  have events : s.libraryTrace.reverse.filterMap LibraryEvent.vmEvent? = s.vmHistory := by
    rw [libraryTrace, ← List.filterMap_reverse, List.filterMap_filterMap, vmHistory_eq]
    exact List.filterMap_congr fun e _ => seen e
  rw [Dealings.stance, stance, ← events]
  rfl

end State

theorem Dealings.stance_add (d : Dealings N) (e : LibraryEvent N) :
    (d.add e).stance = d.stance.grow e.vmEvent?.toList := by
  simp only [stance, add, Stance.grow, List.reverse_cons, List.filterMap_append]
  cases seen : e.vmEvent? <;> simp [seen]

/-- States with dealings of some sort. -/
def Having (J : Dealings N → Prop) (s : State N.platform) : Prop := J s.dealings

namespace Having

variable {J K : Dealings N → Prop} {E H : State N.platform → Prop} {e : Happening N.platform}

theorem record {l : LibraryEvent N} (seen : e.libraryEvent? = some l)
    (hK : ∀ d, J d → K (d.add l)) :
    Triple (Having J) (Exec.record e) (fun _ => Having K) E H := by
  refine Triple.record fun s hs => ?_
  unfold Having
  rw [s.dealings_record seen]
  exact hK s.dealings hs

theorem recordOther (other : e.libraryEvent? = none) {s : State N.platform} (hs : Having J s) :
    Having J { s with record := e :: s.record } := by
  unfold Having
  rwa [s.dealings_recordOther other]

/-- What the dealings say. -/
theorem reads {d : Dealings N} (f : Dealings N → α) {g : State N.platform → α}
    (same : ∀ s, g s = f s.dealings) :
    Triple (Having (· = d)) (Exec.gets g) (fun a s => a = f d ∧ Having (· = d) s) E H :=
  fun s hs => ⟨(same s).trans (congrArg f hs), hs⟩

/-- What a change of the bridge does to the dealings. -/
theorem update (f : Dealings N → Dealings N) {g : Bridge N.platform → Bridge N.platform}
    (same : ∀ s : State N.platform, { s with bridge := g s.bridge }.dealings = f s.dealings)
    (hK : ∀ d, J d → K (f d)) :
    Triple (Having J) (Exec.update g) (fun _ => Having K) E H := by
  refine Triple.update fun s hs => ?_
  unfold Having
  rw [same]
  exact hK s.dealings hs

/-- A quiet program leaves all dealings as they are. -/
theorem quiet {S : System N.platform} {a : Act N.platform α} (quiet : a.IsQuiet) (depth : Nat) :
    Always (Having J) (S.exec (depth + 1) a) fun _ => Having J :=
  quiet.run_keeps _ (fun _ => recordOther rfl) fun _ h => h

end Having

/-! ### Contracts -/

/-- An invariant of dealings that the surroundings keep, but for the library, which has to do with
the session alone. -/
structure DealingsContract (S : Process.Surroundings N (Exec N.platform))
    (extra : {α : Type} → N.Extra α → Exec N.platform α) (I H : State N.platform → Prop) :
    Prop where
  aside : ∀ {s t}, I s → s.dealings = t.dealings → I t
  halts : ∀ s, I s → H s
  java : S.java.Each fun x => Keeps I H x
  handler : ∀ h k args, Keeps I H (S.handler h k args)
  sink : ∀ s player text, Keeps I H (S.sink s player text)
  extra : ∀ {β : Type} (o : N.Extra β), Keeps I H (extra o)

namespace DealingsContract

variable {S : Process.Surroundings N (Exec N.platform)}
  {extra : {α : Type} → N.Extra α → Exec N.platform α} {I H : State N.platform → Prop}
  (C : DealingsContract S extra I H)
include C

theorem recordOther {e : Happening N.platform} (other : e.libraryEvent? = none) {s}
    (h : I s) : I { s with record := e :: s.record } :=
  C.aside h (s.dealings_recordOther other).symm

theorem programBlind : ProgramBlind I where
  set _ _ _ _ h := C.aside h rfl
  record e own := C.recordOther (by cases e <;> first | rfl | cases own)

theorem detached : Detached I H where
  memory _ h := C.aside h rfl
  report _ := C.recordOther rfl
  halts := C.halts

theorem contract : JavaContract S.java I H fun _ => I where
  each := C.java
  aside h _ same := C.aside h (State.dealings_of_engine same)
  handedAside h _ same := C.aside h (State.dealings_of_engine same)
  newPin target := by
    have made : Keeps I H (JavaThread.newPin S.java target) := by
      unfold JavaThread.newPin
      refine C.java.isTold.bind fun told => ?_
      split
      · refine C.java.hasRoom.bind fun room => ?_
        have entered : Keeps I H (JavaThread.useReferences (N := N)
            (·.addPin (if room then some target else none))) := fun _ h => C.aside h rfl
        exact entered.bind fun p => Keeps.pure
      · exact Keeps.pure
    refine made.weaken fun r _ h => ?_
    cases r <;> exact h

/-- References are shared and dropped aside from all dealings. -/
theorem withstands : Withstands (Process.foreign S extra) I H where
  toDetached := C.detached
  handles _ h := C.aside h rfl
  references upkeep h := by
    cases upkeep <;> exact C.aside h rfl

theorem unaware : Unaware (Process.foreign S extra) I H where
  toWithstands := C.withstands
  members _ h := C.aside h rfl
  hostCall _ := C.recordOther rfl
  resolveType name := (C.contract.resolveType name).keeps id
  resolveMember type key := C.contract.resolveMember type key
  construct type member args := (C.contract.construct type member args).keeps id
  invoke receiver member result args := (C.contract.invoke receiver member result args).keeps id
  readField receiver member kind := (C.contract.readField receiver member kind).keeps id
  writeField receiver member value := C.contract.writeField receiver member value

theorem callHandler (h : N.Handler) (k : EventKind) (args : Args k.params) :
    Keeps I H ((Process.foreign S extra).callHandler h k args) :=
  (Keeps.record fun _ => C.recordOther rfl).bind fun _ => C.handler h k args

end DealingsContract

/-- A family of invariants of dealings that the session keeps withstands all programs. -/
def ProgramContract.ofDealings {S : Process.Surroundings N (Exec N.platform)}
    {extra : {α : Type} → N.Extra α → Exec N.platform α} {ι : Type}
    {I : ι → State N.platform → Prop} {H : State N.platform → Prop}
    (C : ∀ i, DealingsContract S extra (I i) H)
    (session : SessionKept (Process.foreign S extra) I H) :
    ProgramContract (Process.foreign S extra) I H where
  toHostContract := .ofUnaware fun i => (C i).unaware
  __ := session
  blind i := (C i).programBlind
  handler i := (C i).handler
  sink i := (C i).sink
  extra i _ o := match o with
    | .inl r => (C i).contract.request r
    | .inr o => (C i).extra o
  clearMembers i := (C i).withstands.clearMembers fun _ h => (C i).aside h rfl

end HostBridge
