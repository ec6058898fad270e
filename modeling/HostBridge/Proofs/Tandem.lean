import HostBridge.Proofs.OperationRuns

/-!
Two runs of one computation. From related states they end in the same way and in related states
again. What the bridge does by itself keeps every relation under which the states differ in what the
two sides keep and in the record alone, and that the changes of the bridge respect. With a relation
of each state to itself this says what single runs keep.
-/
namespace HostBridge

variable {P : Platform} {α β : Type}

namespace Exec

/-- From states that `pre` relates, both runs come to the same value in states that `post` relates,
or to the same panic or halt in states that `broken` relates. -/
def Tandem (pre : State P → State P → Prop) (x : Exec P α) (post : α → State P → State P → Prop)
    (broken : State P → State P → Prop) : Prop :=
  ∀ s t, pre s t → (x s).1 = (x t).1 ∧ match (x s).1 with
    | .value a => post a (x s).2 (x t).2
    | _ => broken (x s).2 (x t).2

/-- Both runs end in the same way, and in related states. -/
abbrev InStep (R : State P → State P → Prop) (x : Exec P α) : Prop := Tandem R x (fun _ => R) R

namespace Tandem

variable {pre R : State P → State P → Prop} {x : Exec P α} {mid : α → State P → State P → Prop}
  {post : β → State P → State P → Prop}

theorem pure {a : α} (h : ∀ s t, pre s t → mid a s t) :
    Tandem pre (Pure.pure a : Exec P α) mid R :=
  fun s t hst => ⟨rfl, h s t hst⟩

theorem panic {m : String} : Tandem R (Exec.panic m : Exec P α) mid R := fun _ _ h => ⟨rfl, h⟩

theorem halt {w : Halt} : Tandem R (Exec.halt w : Exec P α) mid R := fun _ _ h => ⟨rfl, h⟩

/-- What both states say is remembered. -/
theorem gets {f : State P → α} (same : ∀ s t, pre s t → f s = f t) :
    Tandem pre (Exec.gets f) (fun a s t => a = f s ∧ pre s t) R :=
  fun s t h => ⟨congrArg Outcome.value (same s t h), rfl, h⟩

theorem modify {f : State P → State P} {after : Unit → State P → State P → Prop}
    (h : ∀ s t, pre s t → after () (f s) (f t)) : Tandem pre (Exec.modify f) after R :=
  fun s t hst => ⟨rfl, h s t hst⟩

theorem bind {f : α → Exec P β} (hx : Tandem pre x mid R) (hf : ∀ a, Tandem (mid a) (f a) post R) :
    Tandem pre (x >>= f) post R := by
  intro s t hst
  obtain ⟨same, after⟩ := hx s t hst
  rw [run_bind, run_bind]
  rcases hs : x s with ⟨r, s'⟩
  rcases ht : x t with ⟨r', t'⟩
  rw [hs, ht] at same after
  dsimp only at same after
  subst same
  cases r with
  | value a => exact hf a s' t' after
  | panic m => exact ⟨rfl, after⟩
  | halt w => exact ⟨rfl, after⟩

theorem conseq {pre' : State P → State P → Prop} {mid' : α → State P → State P → Prop}
    (h : Tandem pre x mid R) (hpre : ∀ s t, pre' s t → pre s t)
    (hmid : ∀ a s t, mid a s t → mid' a s t) : Tandem pre' x mid' R := by
  intro s t hst
  obtain ⟨same, after⟩ := h s t (hpre s t hst)
  refine ⟨same, ?_⟩
  cases hr : (x s).1 with
  | value a =>
    rw [hr] at after
    exact hmid a _ _ after
  | panic m =>
    rw [hr] at after
    exact after
  | halt w =>
    rw [hr] at after
    exact after

theorem weaken {mid' : α → State P → State P → Prop} (h : Tandem pre x mid R)
    (hmid : ∀ a s t, mid a s t → mid' a s t) : Tandem pre x mid' R :=
  h.conseq (fun _ _ h => h) hmid

theorem of_and {p : Prop} (h : p → Tandem pre x mid R) :
    Tandem (fun s t => p ∧ pre s t) x mid R :=
  fun s t ⟨hp, hst⟩ => h hp s t hst

/-- The panic of an attempt leaves what a panic leaves. -/
theorem attempt (hx : Tandem pre x mid R) :
    Tandem pre x.attempt (fun r s t => match r with
      | .ok a => mid a s t
      | .error _ => R s t) R := by
  intro s t hst
  obtain ⟨same, after⟩ := hx s t hst
  unfold Exec.attempt
  rcases hs : x s with ⟨r, s'⟩
  rcases ht : x t with ⟨r', t'⟩
  rw [hs, ht] at same after
  dsimp only at same after
  subst same
  cases r with
  | value a => exact ⟨rfl, after⟩
  | panic m => exact ⟨rfl, after⟩
  | halt w => exact ⟨rfl, after⟩

end Tandem

namespace InStep

variable {R : State P → State P → Prop} {x : Exec P α}

theorem pure {a : α} : InStep R (Pure.pure a : Exec P α) := Tandem.pure fun _ _ h => h

theorem bind {f : α → Exec P β} (hx : InStep R x) (hf : ∀ a, InStep R (f a)) :
    InStep R (x >>= f) :=
  Tandem.bind hx hf

/-- Both runs from related states. -/
theorem related (hx : InStep R x) {s t : State P} (h : R s t) :
    (x s).1 = (x t).1 ∧ R (x s).2 (x t).2 := by
  obtain ⟨same, after⟩ := hx s t h
  refine ⟨same, ?_⟩
  cases r : (x s).1 <;> rw [r] at after <;> exact after

theorem asks {f : State P → α} (same : ∀ s t, R s t → f s = f t) : InStep R (Exec.gets f) :=
  (Tandem.gets same).weaken fun _ _ _ h => h.2

theorem change {f : State P → State P} (h : ∀ s t, R s t → R (f s) (f t)) :
    InStep R (Exec.modify f) :=
  Tandem.modify h

theorem attempt (hx : InStep R x) : InStep R x.attempt :=
  (Tandem.attempt hx).weaken fun r _ _ h => by cases r <;> exact h

theorem ensure {after : Exec P Unit} (hx : InStep R x) (ha : InStep R after) :
    InStep R (x.ensure after) := by
  unfold Exec.ensure
  apply hx.attempt.bind
  intro r
  apply ha.bind
  intro _
  cases r with
  | ok a => exact pure
  | error m => exact Tandem.panic

theorem onPanic {after : Exec P Unit} (hx : InStep R x) (ha : InStep R after) :
    InStep R (x.onPanic after) := by
  unfold Exec.onPanic
  apply hx.attempt.bind
  intro r
  cases r with
  | ok a => exact pure
  | error m => exact ha.bind fun _ => Tandem.panic

theorem discard (hx : InStep R x) : InStep R (Functor.discard x) := hx.bind fun _ => pure

theorem forM {f : α → Exec P Unit} (hf : ∀ a, InStep R (f a)) (l : List α) :
    InStep R (l.forM f) := by
  induction l with
  | nil => exact pure
  | cons a l ih => exact (hf a).bind fun _ => ih

end InStep
end Exec

/-! ### Calls that may fail -/

namespace Call

open Exec

variable {R : State P → State P → Prop}

theorem inStep_bind {x : Call P α} {f : α → Call P β} (hx : InStep R x.run)
    (hf : ∀ a, InStep R (f a).run) : InStep R (x >>= f).run := by
  rw [ExceptT.run_bind]
  apply hx.bind
  intro r
  cases r with
  | ok a => exact hf a
  | error e => exact InStep.pure

theorem inStep_lift {x : Exec P α} (hx : InStep R x) : InStep R (liftM x : Call P α).run :=
  hx.bind fun _ => InStep.pure

theorem inStep_ofHost {x : Exec P (Except HostError α)} (hx : InStep R x) :
    InStep R (ofHost x).run :=
  hx.bind fun _ => InStep.pure

theorem inStep_throw {e : CallError} : InStep R (throw e : Call P α).run := InStep.pure

theorem inStep_throw_bind {e : CallError} {f : α → Call P β} :
    InStep R ((throw e : Call P α) >>= f).run :=
  InStep.pure

/-- A result that is there already. -/
theorem inStep_result {r : Except CallError α} {f : α → Call P β} (hf : ∀ a, InStep R (f a).run) :
    InStep R ((ExceptT.mk (Pure.pure r) : Call P α) >>= f).run :=
  inStep_bind InStep.pure hf

theorem inStep_ensure {x : Call P α} {after : Exec P Unit} (hx : InStep R x.run)
    (ha : InStep R after) : InStep R (ensure x after).run :=
  InStep.ensure hx ha

end Call

/-! ### Changes of the bridge -/

/-- What the bridge does to its own state, one change at a time. A type is learnt under a name, and
a member under a key, that are known to be its own. -/
inductive Bridge.Step (typeKnown : String → P.Class → Prop)
    (memberKnown : MemberKey → P.Member → Prop) (b : Bridge P) : Bridge P → Prop
  | handles {table : HandleTable P.Object} (step : b.handles.Step table) :
    Step typeKnown memberKnown b { b with handles := table }
  | learnType {name : String} {c : P.Class} (known : typeKnown name c) :
    Step typeKnown memberKnown b { b with members := (b.members.addType name c).2.2 }
  | learnMember {key : MemberKey} {m : P.Member} (known : memberKnown key m) :
    Step typeKnown memberKnown b { b with members := (b.members.addMember key m).2 }
  | forget : Step typeKnown memberKnown b { b with members := b.members.clear }
  | handlers (r : Handlers P.Handler) : Step typeKnown memberKnown b { b with handlers := r }
  | chatSink (c : Option (ChatSink P.Sink)) : Step typeKnown memberKnown b { b with chatSink := c }
  | session (p : Phase) (isolate : Option P.Isolate) (g : Guard) (url : Option String) :
    Step typeKnown memberKnown b
      { b with phase := p, isolate := isolate, guard := g, serviceUrl := url }

/-- A relation of states that differ in what the two sides keep and in the record alone, and stay
related under what the bridge does by itself to both of them. What a member is known as may depend
on what foreign code keeps. -/
structure Steady (F : Foreign P (Exec P)) (typeKnown : String → P.Class → Prop)
    (memberKnown : P.World → MemberKey → P.Member → Prop) (R : State P → State P → Prop) :
    Prop where
  agree : ∀ {s t}, R s t → t = { s with ledger := t.ledger, world := t.world, record := t.record }
  known : ∀ {s t}, R s t → ∀ e ∈ s.bridge.members.types, typeKnown e.1 e.2
  bridge : ∀ {s t b}, s.bridge.Step typeKnown (memberKnown s.world) b → R s t →
    R { s with bridge := b } { t with bridge := b }
  memory : ∀ {s t} (m : Memory), R s t → R { s with memory := m } { t with memory := m }
  environment : ∀ {s t} (e : Config.Environment), R s t →
    R { s with environment := e } { t with environment := e }
  record : ∀ {s t} (e : Happening P), R s t →
    R { s with record := e :: s.record } { t with record := e :: t.record }
  counts : ∀ {s t f}, F.host.Counts f → R s t →
    R { s with ledger := (f s.ledger s.world).1, world := (f s.ledger s.world).2 }
      { t with ledger := (f t.ledger t.world).1, world := (f t.ledger t.world).2 }

namespace Steady

open Exec

variable {F : Foreign P (Exec P)} {typeKnown : String → P.Class → Prop}
  {memberKnown : P.World → MemberKey → P.Member → Prop} {R : State P → State P → Prop}
  (steady : Steady F typeKnown memberKnown R)
include steady

theorem asks {f : State P → α} (blind : ∀ (s : State P) l w r,
      f { s with ledger := l, world := w, record := r } = f s) : InStep R (Exec.gets f) := by
  apply InStep.asks
  intro s t related
  have same := (congrArg f (steady.agree related)).trans (blind s t.ledger t.world t.record)
  exact same.symm

theorem asksBridge {f : Bridge P → α} : InStep R (Exec.bridge f) := steady.asks fun _ _ _ _ => rfl

/-- What the bridge says is remembered until the next change. -/
theorem reads {f : Bridge P → α} :
    Tandem R (Exec.bridge f) (fun a s t => a = f s.bridge ∧ R s t) R :=
  Tandem.gets fun s t related => by rw [steady.agree related]

theorem log (e : Happening P) : InStep R (Exec.record e) :=
  InStep.change fun _ _ => steady.record e

theorem report (d : Diagnostic) : InStep R (Exec.report d) := steady.log _

/-- A change of the bridge from a state of which something is remembered. -/
theorem updates {p : State P → Prop} {f : Bridge P → Bridge P}
    (step : ∀ s : State P, p s → s.bridge.Step typeKnown (memberKnown s.world) (f s.bridge)) :
    Tandem (fun s t => p s ∧ R s t) (Exec.update f) (fun _ => R) R := by
  apply Tandem.modify
  rintro s t ⟨remembered, related⟩
  have same : f t.bridge = f s.bridge := by rw [steady.agree related]
  rw [same]
  exact steady.bridge (step s remembered) related

theorem update {f : Bridge P → Bridge P}
    (step : ∀ s : State P, s.bridge.Step typeKnown (memberKnown s.world) (f s.bridge)) :
    InStep R (Exec.update f) :=
  (steady.updates (p := fun _ => True) fun s _ => step s).conseq (fun _ _ h => ⟨trivial, h⟩)
    fun _ _ _ h => h

theorem upkeep {f : P.Ledger → P.World → P.Ledger × P.World} (counts : F.host.Counts f) :
    InStep R (Exec.upkeep f) :=
  InStep.change fun _ _ => steady.counts counts

theorem drop (o : P.Object) : InStep R (F.host.drop o) := steady.upkeep (.dropObject o)

theorem dropType (c : P.Class) : InStep R (F.host.dropType c) := steady.upkeep (.dropClass c)

theorem dropValue (v : HostValue P.Object) : InStep R (F.host.dropValue v) := by
  unfold Host.dropValue
  split
  · exact steady.drop _
  · exact InStep.pure

end Steady
end HostBridge
