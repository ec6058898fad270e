import HostBridge.Proofs.HandleHistory
import HostBridge.Proofs.ScenarioGrowth
import HostBridge.Scenario.InMemory
import HostBridge.Scenario.Run

/-!
What lasts in memory. However a scenario in memory goes on, its heap grows, its cache holds what the
host would find again, and what is found under a handle was there before or was stored under a new
number.
-/
namespace HostBridge

open Exec

/-- More is known where a value came. -/
theorem Exec.InStep.knowing {P : Platform} {α : Type} {R : State P → State P → Prop}
    {x : Exec P α} {mid : α → State P → State P → Prop} (hx : InStep R x)
    (h : ∀ s t a, R s t → (x s).1 = .value a → R (x s).2 (x t).2 → mid a (x s).2 (x t).2) :
    Tandem R x mid R := by
  intro s t related
  obtain ⟨same, after⟩ := hx.related related
  refine ⟨same, ?_⟩
  cases came : (x s).1 with
  | value a => exact h s t a related came after
  | panic m => exact after
  | halt w => exact after

/-! ### Handles over time -/

namespace HandleTable

variable {β : Type} {t₀ t t' : HandleTable β}

/-- What is found in `t` was found in `t₀` too, or was stored under a number given out since. -/
structure Since (t₀ t : HandleTable β) : Prop where
  issued : t₀.issued ≤ t.issued
  found : ∀ h o, t.find? h = some o →
    t₀.find? h = some o ∨ ∃ k, t₀.issued ≤ k ∧ k < t.issued ∧ h = nth k

namespace Since

theorem refl (t : HandleTable β) : t.Since t := ⟨le_rfl, fun _ _ there => .inl there⟩

/-- Nothing is found that was not found before. -/
theorem of_found (since : t₀.Since t) (issued : t'.issued = t.issued)
    (found : ∀ h o, t'.find? h = some o → t.find? h = some o) : t₀.Since t' := by
  constructor
  · rw [issued]
    exact since.issued
  · intro h o there
    rw [issued]
    exact since.found h o (found h o there)

theorem insert (since : t₀.Since t) (a : β) : t₀.Since (t.insert a).2 := by
  have more : (t.insert a).2.issued = t.issued + 1 := rfl
  have later := since.issued
  constructor
  · omega
  · intro h o there
    rw [find?_insert] at there
    split at there
    case isTrue new => exact .inr ⟨t.issued, later, by omega, new⟩
    case isFalse =>
      rcases since.found h o there with old | ⟨k, low, high, same⟩
      · exact .inl old
      · exact .inr ⟨k, low, by omega, same⟩

theorem step (since : t₀.Since t) (step : t.Step t') : t₀.Since t' := by
  cases step with
  | store o =>
    cases o with
    | none => exact since
    | some a => exact since.insert a
  | get h =>
    obtain ⟨entries, issued⟩ := t.get_entries h
    exact since.of_found issued fun h' o there => by rwa [find?, entries] at there
  | release h =>
    apply since.of_found (t.release_issued h)
    intro h' o there
    unfold HandleTable.release at there
    split at there
    · exact there
    · split at there
      · unfold find? at there ⊢
        rw [lookup_erase] at there
        split at there
        · cases there
        · exact there
      · exact there
  | releaseAll => exact since.of_found rfl (by simp [releaseAll, find?])

/-- Before the numbers come round, a handle that is still there is there with the same object. -/
theorem find?_eq (since : t₀.Since t) (holds : t₀.HoldsSince 0) (small : t.issued < 2 ^ 63 - 1)
    {h : Handle} {o o' : β} (before : t₀.find? h = some o) (after : t.find? h = some o') :
    o' = o := by
  rcases since.found h o' after with same | ⟨k, low, high, number⟩
  · rw [before] at same
    exact (Option.some.inj same).symm
  · have entry : (h, o) ∈ t₀.entries := MemberCache.mem_of_lookup before
    obtain ⟨j, -, hj, own⟩ := holds.2 _ entry
    have := nth_inj (by omega) (by omega) (own.symm.trans number)
    omega

end Since
end HandleTable

namespace Scenario.InMemory

open GrowsHeap

variable {α : Type} {s s₀ s' t : State (platform backend)}

/-- What the bench of scenarios in memory adds uses nothing of the world. -/
theorem growsHeap_bench : bench.GrowsHeap := ⟨fun _ => of_pure _, of_gets _, fun _ => of_pure _⟩

/-! ### Sound states -/

/-- The heap and the caches of the bridge are as look-ups make them. -/
structure Sound (s : State (platform backend)) : Prop where
  heap : s.world.heap.Sound
  types : ∀ e ∈ s.bridge.members.types, e.2 = e.1
  members : ∀ e ∈ s.bridge.members.members, s.world.heap.Fits (.of e.1.className e.1) e.2
  handles : s.bridge.handles.HoldsSince 0

/-- A sound state whose heap and whose handles have come from those of `s₀`. -/
structure Since (s₀ s : State (platform backend)) : Prop extends Sound s where
  grows : s₀.world.heap.Grows s.world.heap
  since : s₀.bridge.handles.Since s.bridge.handles

theorem Sound.since (sound : Sound s) : Since s s :=
  { sound with grows := .refl _, since := .refl _ }

/-- What a member is known as. -/
def Known (w : World) (key : MemberKey) (index : Nat) : Prop :=
  w.heap.Fits (.of key.className key) index

namespace Since

/-- What the bridge does by itself. -/
theorem bridge (since : Since s₀ s) {b : Bridge (platform backend)}
    (step : s.bridge.Step (fun name c => c = name) (Known s.world) b) :
    Since s₀ { s with bridge := b } := by
  cases step with
  | handles step =>
    exact { since with
      handles := since.handles.step step
      since := since.since.step step }
  | @learnType name c known =>
    obtain ⟨-, types, members⟩ := s.bridge.members.addType_spec name c
    exact { since with
      types := by
        intro e mem
        rcases types e mem with old | rfl
        · exact since.types e old
        · exact known
      members := by
        dsimp only
        rw [members]
        exact since.members }
  | @learnMember key index known =>
    obtain ⟨-, members, types⟩ := s.bridge.members.addMember_spec key index
    exact { since with
      types := by
        dsimp only
        rw [types]
        exact since.types
      members := by
        intro e mem
        rcases members e mem with old | rfl
        · exact since.members e old
        · exact known }
  | forget =>
    exact { since with
      types := nofun
      members := nofun }
  | handlers r => exact { since with }
  | chatSink c => exact { since with }
  | session p isolate g url => exact { since with }

/-- A use of the world by which the heap grows. -/
theorem use (since : Since s₀ s) {f : World → α × World} (growing : Growing f) :
    Since s₀ { s with world := (f s.world).2 } where
  heap := (growing s.world).sound since.heap
  types := since.types
  members e mem := (since.members e mem).grows (growing s.world)
  handles := since.handles
  grows := since.grows.trans (growing s.world)
  since := since.since

end Since

/-- Both runs are in the same state, which has come from `s₀`. -/
def Shared (s₀ s t : State (platform backend)) : Prop := s = t ∧ Since s₀ s

theorem Shared.intro {f : State (platform backend) → State (platform backend)}
    (since : ∀ s, Since s₀ s → Since s₀ (f s)) (shared : Shared s₀ s t) :
    Shared s₀ (f s) (f t) := by
  obtain ⟨rfl, own⟩ := shared
  exact ⟨rfl, since s own⟩

theorem use_inStep {f : World → α × World} (growing : Growing f) :
    UseInStep (P := platform backend) (Shared s₀) f := by
  rintro s t ⟨rfl, since⟩
  exact ⟨rfl, rfl, since.use growing⟩

/-! ### Look-ups of the host -/

/-- The state after one more look-up. -/
def counted (s : State (platform backend)) : State (platform backend) :=
  { s with world := { s.world with heap := s.world.heap.countLookup } }

section
variable (F : Foreign (platform backend) (Exec (platform backend))) (s : State (platform backend))

/-- What a look-up of a type comes to. -/
theorem resolveType_run (name : String) : (HostModel.resolveType name : Program backend _).run F s =
    (.value (if s.world.heap.hasClass name then .ok name else .error (.typeNotFound name)),
      counted s) := by
  have run : (HostModel.resolveType name : Program backend _).run F s =
      (if (counted s).world.heap.hasClass name then pure (.ok name)
        else pure (.error (.typeNotFound name)) : Program backend _).run F (counted s) := rfl
  have same : (counted s).world.heap.hasClass name = s.world.heap.hasClass name := rfl
  rw [run, same]
  split <;> rfl

/-- What a look-up of a member comes to. -/
theorem resolveMember_run (className : String) (key : MemberKey) :
    (HostModel.resolveMember className key : Program backend _).run F s =
      (.value (match s.world.heap.find? className key with
        | some index => .ok index
        | none => .error (.memberNotFound key.className key.name key.signature key.kind)),
        counted s) := by
  have run : (HostModel.resolveMember className key : Program backend _).run F s =
      (match (counted s).world.heap.find? className key with
        | some index => pure (.ok index)
        | none => pure (.error (.memberNotFound key.className key.name key.signature key.kind)) :
          Program backend _).run F (counted s) := rfl
  have same : (counted s).world.heap.find? className key = s.world.heap.find? className key := rfl
  rw [run, same]
  cases s.world.heap.find? className key <;> rfl

variable {F s}

/-- Types are resolved to their names. -/
theorem eq_of_resolveType {name c : String}
    (ran : (HostModel.resolveType name : Program backend _).run F s = (.value (.ok c), t)) :
    c = name := by
  rw [resolveType_run] at ran
  split at ran <;> cases ran
  rfl

/-- Members are resolved to numbers that fit. -/
theorem known_of_resolveMember (sound : s.world.heap.Sound) {key : MemberKey} {index : Nat}
    (ran : (HostModel.resolveMember key.className key : Program backend _).run F s =
      (.value (.ok index), t)) : Known t.world key index := by
  rw [resolveMember_run] at ran
  cases found : s.world.heap.find? key.className key with
  | none =>
    rw [found] at ran
    cases ran
  | some index' =>
    rw [found] at ran
    cases ran
    exact sound.find? found

end

/-! ### The system -/

/-- How programs are run. -/
abbrev Runner := {α : Type} → Program backend α → Exec (platform backend) α

/-- The foreign code of a scenario in memory, with what it does beyond the interface. -/
def surroundings (run : Runner)
    (extra : {α : Type} → (platform backend).Extra α → Exec (platform backend) α) :
    Foreign (platform backend) (Exec (platform backend)) where
  host := host.map run
  vm := vm.map run
  handler h k args := run (h.call bench k args)
  sink s player text := run (s.call bench player text)
  extra := extra

theorem shared_steady (run : Runner)
    (extra : {α : Type} → (platform backend).Extra α → Exec (platform backend) α) :
    Steady (surroundings run extra) (fun name c => c = name) Known (Shared s₀) where
  agree := by
    rintro s t ⟨rfl, -⟩
    rfl
  known := fun shared => shared.2.types
  bridge := by
    rintro s t b step ⟨rfl, since⟩
    exact ⟨rfl, since.bridge step⟩
  memory := by
    rintro s t m ⟨rfl, since⟩
    exact ⟨rfl, { since with }⟩
  environment := by
    rintro s t e ⟨rfl, since⟩
    exact ⟨rfl, { since with }⟩
  record := by
    rintro s t e ⟨rfl, since⟩
    exact ⟨rfl, { since with }⟩
  counts := by
    rintro s t f counts ⟨rfl, since⟩
    cases counts <;> exact ⟨rfl, { since with }⟩

/-- Foreign code at a depth lets everything grow if programs do at that depth. -/
theorem surroundings_steady {limit : Nat}
    (ran : ∀ {β : Type} (b : Program backend β), GrowsHeap b →
      InStep (Shared s₀) (system.exec limit b))
    {extra : {α : Type} → (platform backend).Extra α → Exec (platform backend) α}
    (further : ∀ {β : Type} (x : (platform backend).Extra β), InStep (Shared s₀) (extra x)) :
    ForeignSteady (surroundings (system.exec limit) extra) (fun name c => c = name) Known
      (Shared s₀) where
  toSteady := shared_steady _ _
  resolveType := by
    intro name
    apply (ran _ (HostModel.growsHeap_resolveType name)).knowing
    rintro s t r - came after
    refine ⟨?_, after⟩
    rintro c rfl
    cases limit with
    | zero => cases came
    | succ limit =>
      have ran : (HostModel.resolveType name : Program backend _).run (system.foreign limit) s =
          (.value (.ok c), _) := Prod.ext came rfl
      exact eq_of_resolveType ran
  resolveMember := by
    intro c key own
    apply (ran _ (HostModel.growsHeap_resolveMember c key)).knowing
    rintro s t r shared came after
    refine ⟨?_, after⟩
    rintro index rfl
    cases limit with
    | zero => cases came
    | succ limit =>
      subst own
      have ran : (HostModel.resolveMember key.className key : Program backend _).run
          (system.foreign limit) s = (.value (.ok index), _) := Prod.ext came rfl
      exact known_of_resolveMember shared.2.heap ran
  construct c m args := ran _ (HostModel.growsHeap_construct growsHeap_bench c m args)
  invoke r m kind args :=
    ran _ (HostModel.growsHeap_invoke growsHeap_bench (objectOf r) m kind args)
  readField r m kind := ran _ (HostModel.growsHeap_readField (objectOf r) m kind)
  writeField r m v := ran _ (HostModel.growsHeap_writeField (objectOf r) m v)
  start config := ran _ (VmModel.growsHeap_start config)
  loadImage image := ran _ (VmModel.growsHeap_loadImage image)
  enterIsolate i := ran _ (VmModel.growsHeap_enterIsolate i)
  exitIsolate := ran _ VmModel.growsHeap_exitIsolate
  enterScope := ran _ (VmModel.growsHeap_count _)
  exitScope := ran _ (VmModel.growsHeap_count _)
  entryPoint name := ran _ (VmModel.growsHeap_entryPoint growsHeap_bench name)
  drain := ran _ (VmModel.growsHeap_drain growsHeap_bench)
  shutdownIsolate i := ran _ (VmModel.growsHeap_count _)
  stop := ran _ (VmModel.growsHeap_count _)
  handler h k args := ran _ (growsHeap_handler growsHeap_bench h k args)
  sink s player text := ran _ (growsHeap_sink growsHeap_bench s player text)
  extra := further

section
variable {F : Foreign (platform backend) (Exec (platform backend))}
  (steady : ForeignSteady F (fun name c => c = name) Known (Shared s₀))
include steady

theorem tryGate_inStep : InStep (Shared s₀) (Request.tryGate (P := platform backend)) := by
  unfold Request.tryGate
  apply steady.thread.bind
  intro me
  apply steady.asksBridge.bind
  intro guard
  split
  · exact InStep.pure
  · exact (steady.exclusively InStep.pure).bind fun _ => InStep.pure

theorem loadImage_inStep (path : Path) (config : Config) :
    InStep (Shared s₀) (Request.loadImage F.vm path config) := by
  unfold Request.loadImage
  apply (steady.asks fun _ _ _ _ => rfl).bind
  intro files
  cases Image.open? files path config with
  | error e => exact InStep.pure
  | ok image => exact (steady.loadImage image).bind fun _ => InStep.pure

/-- Whatever is requested, if the host may be asked for a member of any class. -/
theorem request_inStep
    (resolves : ∀ c key, InStep (Shared s₀) (F.host.resolveMember c key)) {β : Type}
    (r : Request backend β) : InStep (Shared s₀) (r.run F) := by
  have moves (f : State (platform backend) → State (platform backend))
      (since : ∀ s, Since s₀ s → Since s₀ (f s)) : InStep (Shared s₀) (Exec.modify f) :=
    InStep.change fun _ _ shared => shared.intro since
  cases r with
  | enterIsolate => exact steady.enter
  | leaveIsolate e => exact steady.leave e
  | enterScope => exact steady.callEnterScope
  | exitScope => exact steady.callExitScope
  | tryExclusive => exact tryGate_inStep steady
  | beginShutdown => exact steady.beginShutdown
  | finishShutdown => exact steady.finishShutdown
  | fork =>
    apply steady.thread.bind
    intro me
    apply (moves _ _).bind
    · exact fun _ => InStep.pure
    · exact fun s since => { since with }
  | join t => exact moves _ fun s since => { since with }
  | lookup h => exact steady.lookup h
  | dropObject o => exact steady.drop o
  | resolveType name => exact (steady.resolveType name).weaken fun _ _ _ h => h.2
  | dropClass c => exact steady.dropType c
  | resolveMember c key => exact resolves c key
  | construct c m args => exact steady.construct c m args
  | invoke r m result args => exact steady.invoke r m result args
  | readField r m kind => exact steady.readField r m kind
  | writeField r m v => exact steady.writeField r m v
  | vmStart config => exact steady.start config
  | vmLoad path config => exact loadImage_inStep steady path config
  | vmEntryPoint name => exact steady.entryPoint name
  | vmDrain => exact steady.drain
  | vmExitIsolate => exact steady.exitIsolate
  | vmEnterScope => exact steady.enterScope
  | vmExitScope => exact steady.exitScope
  | vmStop => exact steady.stop

end

/-- Every run of a program by which the heap grows. -/
theorem exec_inStep (limit : Nat) (p : Program backend α) (grows : GrowsHeap p) :
    InStep (Shared s₀) (system.exec limit p) := by
  have steady (limit : Nat)
      (ran : ∀ {β : Type} (b : Program backend β), GrowsHeap b →
        InStep (Shared s₀) (system.exec limit b)) :
      ForeignSteady (system.foreign limit) (fun name c => c = name) Known (Shared s₀) := by
    have inner : ForeignSteady (surroundings (system.exec limit) fun _ => Exec.halt .nesting)
        (fun name c => c = name) Known (Shared s₀) :=
      surroundings_steady ran fun _ => Tandem.halt
    apply surroundings_steady ran
    intro β x
    cases x with
    | inl e => cases e
    | inr r =>
      exact request_inStep inner (fun c key => ran _ (HostModel.growsHeap_resolveMember c key)) r
  exact System.exec_inStep (fun f growing => use_inStep growing) steady limit p grows

/-- Where a sound state comes to. -/
theorem Sound.exec (sound : Sound s) (limit : Nat) {p : Program backend α} (grows : GrowsHeap p) :
    Since s (system.exec limit p s).2 :=
  ((exec_inStep limit p grows).related ⟨rfl, sound.since⟩).2.2

/-! ### States that are reached -/

/-- From a start with some classes, programs were run, and the record was begun anew. -/
inductive Reachable : State (platform backend) → Prop
  | start (files : FileSystem) (classes : List Declaration) : Reachable (start files classes)
  | exec {s : State (platform backend)} (before : Reachable s) (limit : Nat) {α : Type}
    (p : Program backend α) (grows : GrowsHeap p) : Reachable (system.exec limit p s).2
  | newRecord {s : State (platform backend)} (before : Reachable s) :
    Reachable { s with record := [] }

namespace Reachable

/-- States between the steps of a scenario. -/
theorem runStep (before : Reachable s) (step : Step) :
    Reachable (runStep system bench step s).2 :=
  before.newRecord.exec nestingLimit (step.run bench) (growsHeap_step growsHeap_bench step)

theorem sound (reached : Reachable s) : Sound s := by
  induction reached with
  | start files classes =>
    have declared : (({} : Heap).declareAll classes).Sound :=
      (Heap.Grows.declareAll classes).sound nofun
    exact ⟨declared, nofun, nofun, Nat.zero_le _, nofun⟩
  | exec before limit p grows sound => exact (sound.exec limit grows).toSound
  | newRecord before sound => exact { sound with }

end Reachable
end Scenario.InMemory
end HostBridge
