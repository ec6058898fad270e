import HostBridge.Proofs.Programs
import HostBridge.Proofs.VmSessions

/-!
The stance of a bridge towards its VM: how far its session is, who is inside, and all calls made so
far. Most of what a bridge does leaves it as it is; what does change it is said here part by part.
-/
namespace HostBridge

open Exec VmEvent

variable {P : Platform} {α : Type}

/-- A session with its guard, the thread that runs, and the calls into the VM so far. -/
structure Stance (P : Platform) where
  phase : Phase
  guard : Guard
  isolate : Option P.Isolate
  thread : ThreadId
  trace : List (VmEvent P)

namespace Stance

/-- The same stance after more calls. -/
def grow (v : Stance P) (l : List (VmEvent P)) : Stance P := { v with trace := v.trace ++ l }

@[simp] theorem grow_nil (v : Stance P) : v.grow [] = v := by simp [grow]

@[simp] theorem grow_grow (v : Stance P) (l m : List (VmEvent P)) :
    (v.grow l).grow m = v.grow (l ++ m) := by
  simp [grow]

@[simp] theorem phase_grow (v : Stance P) (l : List (VmEvent P)) : (v.grow l).phase = v.phase := rfl

@[simp] theorem guard_grow (v : Stance P) (l : List (VmEvent P)) : (v.grow l).guard = v.guard := rfl

@[simp] theorem isolate_grow (v : Stance P) (l : List (VmEvent P)) :
    (v.grow l).isolate = v.isolate := rfl

@[simp] theorem thread_grow (v : Stance P) (l : List (VmEvent P)) :
    (v.grow l).thread = v.thread := rfl

@[simp] theorem trace_grow (v : Stance P) (l : List (VmEvent P)) :
    (v.grow l).trace = v.trace ++ l := rfl

end Stance

/-- What happened as a call into the VM or the return of one. -/
def Happening.vmEvent? : Happening P → Option (VmEvent P)
  | .vmCall c => some (.inl c)
  | .vmReturn r => some (.inr r)
  | _ => none

namespace State

def stance (s : State P) : Stance P :=
  ⟨s.bridge.phase, s.bridge.guard, s.bridge.isolate, s.thread, s.vmHistory⟩

theorem vmHistory_eq (s : State P) : s.vmHistory = s.history.filterMap Happening.vmEvent? := rfl

theorem stance_record (s : State P) (h : Happening P) :
    ({ s with record := h :: s.record } : State P).stance = s.stance.grow h.vmEvent?.toList := by
  simp only [stance, Stance.grow, vmHistory_eq, history, List.reverse_cons, List.filterMap_append]
  cases hv : h.vmEvent? <;> simp [hv]

end State

/-- States with a stance of some sort. -/
def On (J : Stance P → Prop) (s : State P) : Prop := J s.stance

/-- States with a certain stance. -/
abbrev At (v : Stance P) : State P → Prop := On (· = v)

/-- States whose calls so far are those of sessions. -/
abbrev Lawful : State P → Prop := On fun v => IsLawful v.trace

namespace On

variable {J K : Stance P → Prop} {E H : State P → Prop} {v : Stance P}

theorem of_exists {ι : Type} {J : ι → Stance P → Prop} {x : Exec P α}
    {mid : α → State P → Prop} (h : ∀ i, Triple (On (J i)) x mid E H) :
    Triple (On fun v => ∃ i, J i v) x mid E H :=
  Triple.of_exists h

theorem of_and {p : Prop} {x : Exec P α} {mid : α → State P → Prop}
    (h : p → Triple (On J) x mid E H) : Triple (On fun v => p ∧ J v) x mid E H :=
  Triple.of_and h

theorem intro (h : J v) {s : State P} (hs : At v s) : On J s := by
  unfold At On at hs
  unfold On
  rwa [hs]

/-- What the stance is may be assumed. -/
theorem of_at {x : Exec P α} {mid : α → State P → Prop} (h : ∀ v, J v → Triple (At v) x mid E H) :
    Triple (On J) x mid E H :=
  fun s hs => h s.stance hs s rfl

/-- In a session that runs, one may assume what the stance is. -/
theorem of_at_running {x : Exec P α} {mid : α → State P → Prop}
    (h : ∀ v, J v → v.phase = .running → Triple (At v) x mid E H) :
    Triple (fun s => On J s ∧ s.bridge.phase = .running) x mid E H :=
  fun s ⟨hs, running⟩ => h s.stance hs running s rfl

theorem record {h : Happening P} (hK : ∀ v, J v → K (v.grow h.vmEvent?.toList)) :
    Triple (On J) (Exec.record h) (fun _ => On K) E H := by
  refine Triple.record fun s hs => ?_
  unfold On
  rw [State.stance_record]
  exact hK s.stance hs

/-- What is not a call into the VM changes no stance. -/
theorem recordOther {h : Happening P} (other : h.vmEvent? = none) {s : State P} (hs : On J s) :
    On J { s with record := h :: s.record } := by
  unfold On
  rw [State.stance_record, other]
  exact (Stance.grow_nil s.stance).symm ▸ hs

theorem report {d : Diagnostic} : Triple (On J) (Exec.report d) (fun _ => On J) E H :=
  Triple.record fun _ => recordOther rfl

/-- What a stance says. -/
theorem reads (f : Stance P → α) {g : State P → α} (h : ∀ s, g s = f s.stance) :
    Triple (At v) (Exec.gets g) (fun a s => a = f v ∧ At v s) E H :=
  fun s hs => ⟨(h s).trans (congrArg f hs), hs⟩

/-- What begins with a look at the thread and at the guard goes on with those of the stance. -/
theorem thread_guard {f : ThreadId → Guard → Exec P α} {mid : α → State P → Prop}
    (h : Triple (At v) (f v.thread v.guard) mid E H) :
    Triple (At v) (do
      let me ← Exec.gets (·.thread)
      let g ← Exec.bridge (·.guard)
      f me g) mid E H := by
  refine Triple.bind (reads Stance.thread fun _ => rfl) fun me => Triple.of_and ?_
  rintro rfl
  refine Triple.bind (reads Stance.guard fun _ => rfl) fun g => Triple.of_and ?_
  rintro rfl
  exact h

/-- What a change of the bridge does to the stance. -/
theorem update (f : Stance P → Stance P) {g : Bridge P → Bridge P}
    (h : ∀ s : State P, { s with bridge := g s.bridge }.stance = f s.stance) :
    Triple (At v) (Exec.update g) (fun _ => At (f v)) E H :=
  fun s hs => (h s).trans (congrArg f hs)

theorem isRunning : Triple (At v) Lifecycle.isRunning
    (fun b s => b = decide (v.phase = .running) ∧ At v s) E H :=
  fun _ hs => ⟨by rw [← hs]; rfl, hs⟩

theorem inert (halts : ∀ s, On J s → H s) : Inert (On J) H where
  handles _ h := h
  memory _ h := h
  sides _ _ h := h
  report _ := recordOther rfl
  halts := halts

theorem programBlind : ProgramBlind (On J) where
  set _ _ _ _ h := h
  record e own := recordOther (by cases e <;> first | rfl | cases own)

/-- An invariant of stances knows nothing of members and the host. -/
theorem unaware {F : Foreign P (Act P)} {limit : Nat} (halts : ∀ s, On J s → H s)
    (run : ∀ {β : Type} (b : Act P β), Keeps (On J) H ((System.ofPrograms F).exec limit b)) :
    Unaware ((System.ofPrograms F).foreign limit) (On J) H :=
  System.unaware_ofPrograms (inert halts) (fun _ h => h) (fun _ => recordOther rfl) run

/-! ### Calls into the VM -/

theorem tryCall {c : VmCall P} {x : Exec P (Except VmError α)} {done : α → VmReturn P}
    {mid : Stance P → Prop} {post : Except VmError α → Stance P → Prop}
    (called : ∀ v, J v → mid (v.grow [.inl c])) (hx : Triple (On mid) x (fun _ => On mid) E H)
    (done_post : ∀ a v, mid v → post (.ok a) (v.grow [.inr (done a)]))
    (failed_post : ∀ e v, mid v → post (.error e) (v.grow [.inr (.failed e)])) :
    Triple (On J) (Vm.tryCall c x done) (fun r => On (post r)) E H := by
  refine (record called).bind fun _ => hx.bind fun r => ?_
  cases r with
  | ok a => exact (record (done_post a)).bind fun _ => Triple.pure fun _ h => h
  | error e => exact (record (failed_post e)).bind fun _ => Triple.pure fun _ h => h

/-- A call into the VM that leaves the stance as it is otherwise. -/
theorem tryCall_at {c : VmCall P} {x : Exec P (Except VmError α)} {done : α → VmReturn P}
    (hx : Triple (At (v.grow [.inl c])) x (fun _ => At (v.grow [.inl c])) E H) :
    Triple (At v) (Vm.tryCall c x done) (fun r => At (v.grow (match r with
      | .ok a => [.inl c, .inr (done a)]
      | .error e => [.inl c, .inr (.failed e)]))) E H := by
  refine tryCall (by rintro _ rfl; rfl) hx ?_ ?_
  · rintro a _ rfl
    exact Stance.grow_grow _ _ _
  · rintro e _ rfl
    exact Stance.grow_grow _ _ _

/-- A call into the VM that always comes back. -/
theorem call_at {c : VmCall P} {x : Exec P Unit}
    (hx : Triple (At (v.grow [.inl c])) x (fun _ => At (v.grow [.inl c])) E H) :
    Triple (At v) (do
      Exec.record (.vmCall c)
      x) (fun _ => At (v.grow [.inl c])) E H :=
  (record (by rintro _ rfl; rfl)).bind fun _ => hx

/-- A call after others. -/
theorem tryCall_after {l : List (VmEvent P)} {c : VmCall P} {x : Exec P (Except VmError α)}
    {done : α → VmReturn P}
    (hx : Triple (At (v.grow (l ++ [.inl c]))) x (fun _ => At (v.grow (l ++ [.inl c]))) E H) :
    Triple (At (v.grow l)) (Vm.tryCall c x done) (fun r => At (v.grow (l ++ match r with
      | .ok a => [.inl c, .inr (done a)]
      | .error e => [.inl c, .inr (.failed e)]))) E H := by
  simpa only [Stance.grow_grow] using tryCall_at (v := v.grow l) (by simpa using hx)

theorem call_after {l : List (VmEvent P)} {c : VmCall P} {x : Exec P Unit}
    (hx : Triple (At (v.grow (l ++ [.inl c]))) x (fun _ => At (v.grow (l ++ [.inl c]))) E H) :
    Triple (At (v.grow l)) (do
      Exec.record (.vmCall c)
      x) (fun _ => At (v.grow (l ++ [.inl c]))) E H := by
  simpa only [Stance.grow_grow] using call_at (v := v.grow l) (by simpa using hx)

end On
end HostBridge
