import HostBridge.Proofs.InMemoryGrowth
import HostBridge.Proofs.WireEcho

/-!
Look-ups in memory. Where a class has a member of a name, the bridge finds both, whether they are in
its cache or not, and a look-up changes nothing but what is counted, remembered and reported.
-/
namespace HostBridge

open Exec

/-! ### Calls that return -/

/-- From each state on its own. -/
theorem Exec.Returns.each {P : Platform} {α : Type} {pre : State P → Prop} {x : Exec P α}
    {post : α → State P → Prop} {deep : Prop} (h : ∀ s, pre s → Returns (· = s) x post deep) :
    Returns pre x post deep :=
  fun s hs => h s hs s rfl

namespace Call

variable {P : Platform} {α β : Type} {pre : State P → Prop} {deep : Prop}
  {post : Except CallError β → State P → Prop}

/-- A call goes on from what the host answers. -/
theorem returns_ofHost {x : Exec P (Except HostError α)} {k : α → Call P β}
    {mid : α → State P → Prop}
    (hx : Returns pre x (fun r t => ∃ a, r = .ok a ∧ mid a t) deep)
    (hk : ∀ a, Returns (mid a) (k a).run post deep) :
    Returns pre (ofHost x >>= k).run post deep := by
  rw [run_ofHost_bind]
  apply hx.bind
  rintro r t ⟨a, rfl, here⟩
  exact hk a t here

end Call

namespace HandleTable

variable {β : Type} {t t' : HandleTable β}

theorem get_eq_find? (t : HandleTable β) (h : Handle) :
    (t.get h).1 = if h.isNull then none else t.find? h := by
  unfold get
  split
  · rfl
  · cases t.find? h <;> rfl

/-- What is found depends on the entries alone. -/
theorem get_congr (same : t'.entries = t.entries) (h : Handle) : (t'.get h).1 = (t.get h).1 := by
  rw [get_eq_find?, get_eq_find?, find?, find?, same]

end HandleTable

namespace Scenario.InMemory

variable {α : Type} {s t : State (platform backend)}

/-! ### What a look-up leaves alone -/

/-- Look-ups alone lie between `s` and `t`. -/
structure Looked (s t : State (platform backend)) : Prop where
  sound : Sound t
  memory : t.memory = s.memory
  entries : t.bridge.handles.entries = s.bridge.handles.entries
  issued : t.bridge.handles.issued = s.bridge.handles.issued
  heap : ∃ n, t.world.heap = { s.world.heap with lookups := n }

namespace Looked

theorem refl (sound : Sound s) : Looked s s := ⟨sound, rfl, rfl, rfl, _, rfl⟩

variable (looked : Looked s t)
include looked

theorem hasClass (name : String) : t.world.heap.hasClass name = s.world.heap.hasClass name := by
  obtain ⟨n, heap⟩ := looked.heap
  rw [heap]
  rfl

theorem find? (className : String) (key : MemberKey) :
    t.world.heap.find? className key = s.world.heap.find? className key := by
  obtain ⟨n, heap⟩ := looked.heap
  rw [heap]
  rfl

theorem content (slot : Slot) : t.world.heap.content slot = s.world.heap.content slot := by
  obtain ⟨n, heap⟩ := looked.heap
  rw [heap]
  cases slot <;> rfl

theorem size : t.world.heap.instances.size = s.world.heap.instances.size := by
  obtain ⟨n, heap⟩ := looked.heap
  rw [heap]

theorem get (h : Handle) : (t.bridge.handles.get h).1 = (s.bridge.handles.get h).1 :=
  HandleTable.get_congr looked.entries h

/-- What is put on record does not matter. -/
theorem recorded (r : List (Happening (platform backend))) : Looked s { t with record := r } :=
  { looked with sound := { looked.sound with } }

theorem counted : Looked s (counted t) := by
  obtain ⟨n, heap⟩ := looked.heap
  have grows : t.world.heap.Grows t.world.heap.countLookup := .of_same rfl rfl rfl rfl
  exact { looked with
    sound := { looked.sound with
      heap := grows.sound looked.sound.heap
      members := fun e mem => (looked.sound.members e mem).grows grows }
    heap := ⟨n + 1, by simp [InMemory.counted, Heap.countLookup, heap]⟩ }

/-- What the bridge learns does not matter. -/
theorem learnt {c : MemberCache (platform backend).Class (platform backend).Member}
    (step : t.bridge.Step (fun name c => c = name) (Known t.world) { t.bridge with members := c }) :
    Looked s { t with bridge := { t.bridge with members := c } } :=
  { looked with sound := (looked.sound.since.bridge step).toSound }

/-- That a handle was looked up does not matter. -/
theorem remembered (h : Handle) :
    Looked s { t with bridge := { t.bridge with handles := (t.bridge.handles.get h).2.2 } } := by
  obtain ⟨entries, issued⟩ := t.bridge.handles.get_entries h
  exact {
    sound := (looked.sound.since.bridge (.handles (.get h))).toSound
    memory := looked.memory
    entries := entries.trans looked.entries
    issued := issued.trans looked.issued
    heap := looked.heap }

end Looked

/-! ### The bridge at work -/

variable {n index : Nat} {className : String} {key : MemberKey}

/-- References are not counted in memory. -/
theorem spares (limit : Nat) (p : State (platform backend) → Prop) :
    (system.foreign limit).host.Spares p := by
  intro f counts s hs
  cases counts <;> exact hs

section
variable {deep : Prop}

theorem record_looked (e : Happening (platform backend)) :
    Returns (Looked s) (Exec.record e) (fun _ => Looked s) deep :=
  Returns.modify fun _ looked => looked.recorded _

/-- The host finds the class. -/
theorem callResolveType_looked (known : s.world.heap.hasClass className = true) :
    Returns (Looked s) ((system.foreign (n + 1)).host.callResolveType className)
      (fun r t => r = .ok className ∧ Looked s t) deep := by
  unfold Host.callResolveType
  apply (record_looked _).bind
  intro _
  have resolved : Returns (Looked s) ((system.foreign (n + 1)).host.resolveType className)
      (fun r t => r = .ok className ∧ Looked s t) deep := by
    intro t looked
    have run := resolveType_run (system.foreign n) t className
    rw [looked.hasClass, if_pos known] at run
    exact .inr ⟨_, _, run, rfl, looked.counted⟩
  apply resolved.bind
  intro r
  apply Returns.of_and
  rintro rfl
  exact (record_looked _).bind fun _ => Returns.pure fun t looked => ⟨rfl, looked⟩

/-- The host finds the member. -/
theorem callResolveMember_looked (found : s.world.heap.find? className key = some index) :
    Returns (Looked s) ((system.foreign (n + 1)).host.callResolveMember className key)
      (fun r t => r = .ok index ∧ Looked s t) deep := by
  unfold Host.callResolveMember
  apply (record_looked _).bind
  intro _
  have resolved : Returns (Looked s) ((system.foreign (n + 1)).host.resolveMember className key)
      (fun r t => r = .ok index ∧ Looked s t) deep := by
    intro t looked
    have run := resolveMember_run (system.foreign n) t className key
    rw [looked.find?, found] at run
    exact .inr ⟨_, _, run, rfl, looked.counted⟩
  apply resolved.bind
  intro r
  apply Returns.of_and
  rintro rfl
  exact (record_looked _).bind fun _ => Returns.pure fun t looked => ⟨rfl, looked⟩

/-- A change of what the bridge has learnt. -/
theorem learn_looked {c : MemberCache (platform backend).Class (platform backend).Member}
    (looked : Looked s { t with bridge := { t.bridge with members := c } }) :
    Returns (· = t) (Exec.update fun b => { b with members := c }) (fun _ => Looked s) deep :=
  Returns.modify (by rintro _ rfl; exact looked)

/-- A class that the host finds is found by the bridge. -/
theorem type_looked (known : s.world.heap.hasClass className = true) :
    Returns (Looked s) (Members.type (system.foreign (n + 1)) className)
      (fun r t => r = .ok className ∧ Looked s t) deep := by
  have given {c : (platform backend).Class} (own : c = className) : Returns (Looked s) (do
      (system.foreign (n + 1)).host.shareType c
      return .ok c : Exec (platform backend) (Except HostError (platform backend).Class))
      (fun r t => r = .ok className ∧ Looked s t) deep :=
    ((spares (n + 1) (Looked s)).upkeep (.shareClass c)).bind fun _ =>
      Returns.pure fun t looked => ⟨congrArg Except.ok own, looked⟩
  unfold Members.type
  apply Returns.asks.bind
  intro cache
  apply Returns.each
  rintro t ⟨rfl, looked⟩
  have start : ∀ u, u = t → Looked s u := by
    rintro _ rfl
    exact looked
  cases found : t.bridge.members.type? className with
  | some c =>
    have own : c = className := looked.sound.types _ (MemberCache.mem_of_lookup found)
    exact (given own).of_imp start
  | none =>
    apply ((callResolveType_looked known).of_imp start).bind
    intro r
    apply Returns.of_and
    rintro rfl
    apply Returns.asks.bind
    intro cache
    apply Returns.each
    rintro u ⟨rfl, looked⟩
    obtain ⟨kept, only, -⟩ := u.bridge.members.addType_spec className className
    have own : (u.bridge.members.addType className className).1 = className := by
      rcases only _ kept with old | new
      · exact looked.sound.types _ old
      · exact congrArg Prod.snd new
    have step : u.bridge.Step (fun name c => c = name) (Known u.world)
        { u.bridge with members := (u.bridge.members.addType className className).2.2 } :=
      .learnType rfl
    have learnt := looked.learnt step
    generalize u.bridge.members.addType className className = added at own learnt ⊢
    obtain ⟨kept, new, cache⟩ := added
    apply (learn_looked learnt).bind
    intro _
    cases new with
    | true => exact given own
    | false => exact ((spares (n + 1) (Looked s)).dropType _).bind fun _ => given own

/-- A member that the host finds is found by the bridge, under a number that fits. -/
theorem member_looked (found : s.world.heap.find? key.className key = some index) :
    Returns (Looked s) (Members.member (system.foreign (n + 1)) key.className key)
      (fun r t => ∃ m, r = .ok m ∧ Known t.world key m ∧ Looked s t) deep := by
  unfold Members.member
  apply Returns.asks.bind
  intro cache
  apply Returns.each
  rintro t ⟨rfl, looked⟩
  have start : ∀ u, u = t → Looked s u := by
    rintro _ rfl
    exact looked
  cases cached : t.bridge.members.member? key with
  | some m =>
    have known : Known t.world key m := looked.sound.members _ (MemberCache.mem_of_lookup cached)
    exact Returns.pure (by rintro _ rfl; exact ⟨m, rfl, known, looked⟩)
  | none =>
    apply ((callResolveMember_looked found).of_imp start).bind
    intro r
    apply Returns.of_and
    rintro rfl
    apply Returns.asks.bind
    intro cache
    apply Returns.each
    rintro u ⟨rfl, looked⟩
    have fits : Known u.world key index :=
      looked.sound.heap.find? ((looked.find? key.className key).trans found)
    obtain ⟨kept, -, -⟩ := u.bridge.members.addMember_spec key index
    have learnt := looked.learnt (.learnMember fits)
    have known : Known u.world key (u.bridge.members.addMember key index).1 :=
      learnt.sound.members _ kept
    generalize u.bridge.members.addMember key index = added at known learnt ⊢
    obtain ⟨kept, cache⟩ := added
    have updated : Returns (· = u) (Exec.update fun b => { b with members := cache })
        (fun _ t => Known t.world key kept ∧ Looked s t) deep :=
      Returns.modify (by rintro _ rfl; exact ⟨known, learnt⟩)
    exact updated.bind fun _ => Returns.pure fun t h => ⟨kept, rfl, h⟩

/-! ### Objects and words -/

/-- A handle is looked up. -/
theorem lookup_looked (h : Handle) : Returns (Looked s) (Objects.lookup (system.foreign n) h)
    (fun r t => r = (s.bridge.handles.get h).1 ∧ Looked s t) deep := by
  unfold Objects.lookup
  apply Returns.asks.bind
  intro table
  apply Returns.each
  rintro t ⟨rfl, looked⟩
  have same := looked.get h
  have remembered := looked.remembered h
  rcases got : t.bridge.handles.get h with ⟨found, new, table⟩
  rw [got] at same remembered
  have updated : Returns (· = t) (Exec.update fun b => { b with handles := table })
      (fun _ => Looked s) deep :=
    Returns.modify (by rintro _ rfl; exact remembered)
  have given : Returns (Looked s) (pure found : Exec (platform backend) _)
      (fun r t => r = (s.bridge.handles.get h).1 ∧ Looked s t) deep :=
    Returns.pure fun t looked => ⟨same, looked⟩
  have shared (o : (platform backend).Object) :
      Returns (Looked s) ((system.foreign n).host.share o) (fun _ => Looked s) deep :=
    (spares n (Looked s)).upkeep (.shareObject o)
  apply updated.bind
  intro _
  cases new <;> cases found
  · exact given
  · exact (shared _).bind fun _ => given
  · exact (record_looked _).bind fun _ => given
  · exact (record_looked _).bind fun _ => (shared _).bind fun _ => given

/-- A word is read as the value that it stands for. -/
theorem decode_looked {k : ValueKind} {w : Word} {v : HostValue ObjectId} (other : k ≠ .void)
    (stands : Call.standsFor s w k = some v) :
    Returns (Looked s) (Call.decode (system.foreign n) k w) (fun v' t => v' = v ∧ Looked s t)
      deep := by
  by_cases scalar : k.isScalar = true
  · rw [Call.standsFor, if_pos scalar] at stands
    rw [Call.decode_scalar _ scalar]
    exact Returns.pure fun t looked => ⟨Option.some.inj stands, looked⟩
  rw [Call.standsFor, if_neg scalar] at stands
  have object : Returns (Looked s) (do
      return .object (← Objects.lookup (system.foreign n) w.toHandle) :
        Exec (platform backend) (HostValue ObjectId))
      (fun v' t => v' = .object (s.bridge.handles.get w.toHandle).1 ∧ Looked s t) deep := by
    apply (lookup_looked _).bind
    rintro found
    exact Returns.pure fun t h => ⟨congrArg HostValue.object h.1, h.2⟩
  cases k with
  | string =>
    have read : Returns (Looked s) (Call.readText w.toPointer)
        (fun text t => HostValue.string text = v ∧ Looked s t) deep := by
      unfold Call.readText
      simp only [Call.taken] at stands
      by_cases null : w.toPointer = 0
      · rw [if_pos null] at stands ⊢
        exact Returns.pure fun t looked => ⟨Option.some.inj stands, looked⟩
      · rw [if_neg null] at stands ⊢
        obtain ⟨buffer, found, rfl⟩ := Option.map_eq_some_iff.mp stands
        apply Returns.asks.bind
        intro there
        apply Returns.each
        rintro t ⟨rfl, looked⟩
        rw [looked.memory, found]
        exact Returns.pure (by rintro _ rfl; exact ⟨rfl, looked⟩)
    exact read.bind fun text => Returns.pure fun t h => h
  | object =>
    cases stands
    exact object
  | array =>
    cases stands
    exact object
  | void => exact absurd rfl other
  | _ => exact absurd rfl scalar

end
end Scenario.InMemory
end HostBridge
