import HostBridge.Bridge.Call

/-!
Triples for executions. A triple says what holds after a computation by the way it ended. An
invariant is kept by a computation when it holds again after a value and after a panic; after a
halt, from which nothing goes on, something weaker may hold.
-/
namespace HostBridge
namespace Exec

variable {P : Platform} {α β ε : Type}

/-- From `pre`, a value comes with `post`, a panic with `panicked` and a halt with `halted`. -/
def Triple (pre : State P → Prop) (x : Exec P α) (post : α → State P → Prop)
    (panicked halted : State P → Prop) : Prop :=
  ∀ s, pre s → match x s with
    | (.value a, t) => post a t
    | (.panic _, t) => panicked t
    | (.halt _, t) => halted t

/-- From `pre`, a value comes with `post`; nothing is said of panics and halts. -/
abbrev Gives (pre : State P → Prop) (x : Exec P α) (post : α → State P → Prop) : Prop :=
  Triple pre x post (fun _ => True) fun _ => True

/-- A value comes, with `post`. -/
abbrev Always (pre : State P → Prop) (x : Exec P α) (post : α → State P → Prop) : Prop :=
  Triple pre x post (fun _ => False) fun _ => False

namespace Triple

variable {pre : State P → Prop} {x : Exec P α} {mid : α → State P → Prop}
  {post : β → State P → Prop} {E E' H : State P → Prop}

theorem conseq {pre' E' H' : State P → Prop} {mid' : α → State P → Prop}
    (h : Triple pre x mid E H) (hpre : ∀ s, pre' s → pre s) (hmid : ∀ a s, mid a s → mid' a s)
    (hE : ∀ s, E s → E' s) (hH : ∀ s, H s → H' s) : Triple pre' x mid' E' H' := by
  intro s hs
  have hx := h s (hpre s hs)
  rcases hrun : x s with ⟨a | m | w, t⟩ <;> rw [hrun] at hx
  · exact hmid a t hx
  · exact hE t hx
  · exact hH t hx

/-- What a computation comes to is what it is seen to come to. -/
theorem self {s : State P} :
    Gives (· = s) x (fun a t => x s = (.value a, t)) := by
  intro u hu
  rw [hu]
  rcases x s with ⟨a | m | w, t⟩
  · rfl
  · trivial
  · trivial

/-- What is said of the value of a computation holds of the value that it is seen to come to. -/
theorem of_value {s t : State P} {a : α} (h : Triple (· = s) x mid E H)
    (run : x s = (.value a, t)) : mid a t := by
  have hs := h s rfl
  rw [run] at hs
  exact hs

/-- What always gives a value gives one here. -/
theorem comes {s : State P} (h : Always (· = s) x mid) : ∃ a t, x s = (.value a, t) ∧ mid a t := by
  have hs := h s rfl
  rcases hrun : x s with ⟨a | m | w, t⟩ <;> rw [hrun] at hs
  · exact ⟨a, t, rfl, hs⟩
  · exact hs.elim
  · exact hs.elim

/-- What holds however a computation ends holds where it ends. -/
theorem ends {I : State P → Prop} {s : State P} (h : Triple (· = s) x (fun _ => I) I I) :
    I (x s).2 := by
  have hs := h s rfl
  rcases hrun : x s with ⟨a | m | w, t⟩ <;> rw [hrun] at hs <;> exact hs

/-- Nothing is said. -/
theorem any : Gives pre x (fun _ _ => True) := by
  intro s _
  rcases x s with ⟨a | m | w, t⟩ <;> trivial

theorem and {mid' : α → State P → Prop} (h : Triple pre x mid E H) (h' : Triple pre x mid' E H) :
    Triple pre x (fun a s => mid a s ∧ mid' a s) E H := by
  intro s hs
  have hx := h s hs
  have hx' := h' s hs
  rcases hrun : x s with ⟨a | m | w, t⟩ <;> rw [hrun] at hx hx'
  · exact ⟨hx, hx'⟩
  · exact hx
  · exact hx

/-- What holds before may be assumed. -/
theorem of_pre (h : ∀ s, pre s → Triple (· = s) x mid E H) : Triple pre x mid E H :=
  fun s hs => h s hs s rfl

theorem of_imp {pre' : State P → Prop} (h : Triple pre x mid E H) (hpre : ∀ s, pre' s → pre s) :
    Triple pre' x mid E H :=
  h.conseq hpre (fun _ _ h => h) (fun _ h => h) fun _ h => h

/-- Less may be said of a value. -/
theorem weaken {mid' : α → State P → Prop} (h : Triple pre x mid E H)
    (hmid : ∀ a s, mid a s → mid' a s) : Triple pre x mid' E H :=
  h.conseq (fun _ h => h) hmid (fun _ h => h) fun _ h => h

/-- Nothing is said of panics and halts. -/
theorem gives (h : Triple pre x mid E H) : Gives pre x mid :=
  h.conseq (fun _ h => h) (fun _ _ h => h) (fun _ _ => trivial) fun _ _ => trivial

/-- What always gives a value meets every condition on panics and halts. -/
theorem of_always {post : α → State P → Prop} (h : Always pre x post) : Triple pre x post E H :=
  h.conseq (fun _ h => h) (fun _ _ h => h) (fun _ h => h.elim) fun _ h => h.elim

/-- A computation that does not panic meets every condition on panics. -/
theorem of_noPanic (h : Triple pre x mid (fun _ => False) H) : Triple pre x mid E H :=
  h.conseq (fun _ h => h) (fun _ _ h => h) (fun _ h => h.elim) fun _ h => h

theorem of_exists {ι : Type} {pre : ι → State P → Prop}
    (h : ∀ i, Triple (pre i) x mid E H) : Triple (fun s => ∃ i, pre i s) x mid E H :=
  fun s ⟨i, hs⟩ => h i s hs

theorem of_and {p : Prop} (h : p → Triple pre x mid E H) :
    Triple (fun s => p ∧ pre s) x mid E H :=
  fun s ⟨hp, hs⟩ => h hp s hs

theorem pure {a : α} (h : ∀ s, pre s → mid a s) : Triple pre (pure a : Exec P α) mid E H := h

theorem bind {f : α → Exec P β} (hx : Triple pre x mid E H)
    (hf : ∀ a, Triple (mid a) (f a) post E H) : Triple pre (x >>= f) post E H := by
  intro s hs
  have h := hx s hs
  rw [run_bind]
  rcases hrun : x s with ⟨a | m | w, t⟩ <;> rw [hrun] at h
  · exact hf a t h
  · exact h
  · exact h

/-- What holds whatever the value is holds without the value. -/
theorem discard {after : State P → Prop} (hx : Triple pre x (fun _ => after) E H) :
    Triple pre (Functor.discard x) (fun _ => after) E H := by
  unfold Functor.discard Functor.mapConst
  exact hx.bind fun _ => pure fun _ h => h

theorem panic {m : String} (h : ∀ s, pre s → E s) :
    Triple pre (Exec.panic m : Exec P α) mid E H := h

theorem halt {w : Halt} (h : ∀ s, pre s → H s) :
    Triple pre (Exec.halt w : Exec P α) mid E H := h

theorem attempt (hx : Triple pre x mid E H) :
    Triple pre x.attempt (fun r s => match r with
      | .ok a => mid a s
      | .error _ => E s) E' H := by
  intro s hs
  have h := hx s hs
  unfold Exec.attempt
  rcases hrun : x s with ⟨a | m | w, t⟩ <;> rw [hrun] at h
  · exact h
  · exact h
  · exact h

theorem ensure {mid' : α → State P → Prop} {after : Exec P Unit} (hx : Triple pre x mid E H)
    (hvalue : ∀ a, Triple (mid a) after (fun _ => mid' a) E' H)
    (hpanic : Triple E after (fun _ => E') E' H) : Triple pre (x.ensure after) mid' E' H := by
  unfold Exec.ensure
  refine bind hx.attempt fun r => ?_
  cases r with
  | ok a => exact bind (hvalue a) fun _ => pure fun _ h => h
  | error m => exact bind hpanic fun _ => panic fun _ h => h

theorem onPanic {after : Exec P Unit} (hx : Triple pre x mid E H)
    (hpanic : Triple E after (fun _ => E') E' H) : Triple pre (x.onPanic after) mid E' H := by
  unfold Exec.onPanic
  refine bind hx.attempt fun r => ?_
  cases r with
  | ok a => exact pure fun _ h => h
  | error m => exact bind hpanic fun _ => panic fun _ h => h

theorem gets {f : State P → α} (h : ∀ s, pre s → mid (f s) s) :
    Triple pre (Exec.gets f) mid E H := h

/-- What the state says is remembered. -/
theorem asks {f : State P → α} :
    Triple pre (Exec.gets f) (fun a s => a = f s ∧ pre s) E H := fun _ h => ⟨rfl, h⟩

/-- Asking changes nothing. -/
theorem asked {f : State P → α} : Triple pre (Exec.gets f) (fun _ => pre) E H := fun _ h => h

theorem bridge {f : Bridge P → α} (h : ∀ s, pre s → mid (f s.bridge) s) :
    Triple pre (Exec.bridge f) mid E H := h

theorem modify {f : State P → State P} {after : Unit → State P → Prop}
    (h : ∀ s, pre s → after () (f s)) : Triple pre (Exec.modify f) after E H := h

theorem update {f : Bridge P → Bridge P} {after : Unit → State P → Prop}
    (h : ∀ s, pre s → after () { s with bridge := f s.bridge }) :
    Triple pre (Exec.update f) after E H := h

theorem record {e : Happening P} {after : Unit → State P → Prop}
    (h : ∀ s, pre s → after () { s with record := e :: s.record }) :
    Triple pre (Exec.record e) after E H := h

theorem forM {I : State P → Prop} {f : α → Exec P Unit}
    (hf : ∀ a, Triple I (f a) (fun _ => I) E H) (l : List α) :
    Triple I (l.forM f) (fun _ => I) E H := by
  induction l with
  | nil => exact pure fun _ h => h
  | cons a l ih => exact (hf a).bind fun _ => ih

end Triple

/-! ### Invariants -/

/-- Values and panics leave `I` in force; a halt leaves `H`. -/
def Keeps (I H : State P → Prop) (x : Exec P α) : Prop := Triple I x (fun _ => I) I H

namespace Keeps

variable {I H : State P → Prop} {x : Exec P α}

theorem pure {a : α} : Keeps I H (pure a : Exec P α) := Triple.pure fun _ h => h

theorem bind {f : α → Exec P β} (hx : Keeps I H x) (hf : ∀ a, Keeps I H (f a)) :
    Keeps I H (x >>= f) := Triple.bind hx hf

theorem discard (hx : Keeps I H x) : Keeps I H (Functor.discard x) := Triple.discard hx

theorem panic {m : String} : Keeps I H (Exec.panic m : Exec P α) := Triple.panic fun _ h => h

theorem halt {w : Halt} (halts : ∀ s, I s → H s) : Keeps I H (Exec.halt w : Exec P α) :=
  Triple.halt halts

theorem attempt (hx : Keeps I H x) : Keeps I H x.attempt :=
  (Triple.attempt hx).weaken fun r _ h => by cases r <;> exact h

theorem ensure {after : Exec P Unit} (hx : Keeps I H x) (ha : Keeps I H after) :
    Keeps I H (x.ensure after) := Triple.ensure hx (fun _ => ha) ha

theorem onPanic {after : Exec P Unit} (hx : Keeps I H x) (ha : Keeps I H after) :
    Keeps I H (x.onPanic after) := Triple.onPanic hx ha

theorem gets {f : State P → α} : Keeps I H (Exec.gets f) := Triple.gets fun _ h => h

theorem bridge {f : Bridge P → α} : Keeps I H (Exec.bridge f) := gets

theorem modify {f : State P → State P} (h : ∀ s, I s → I (f s)) : Keeps I H (Exec.modify f) :=
  Triple.modify h

theorem record {e : Happening P} (h : ∀ s, I s → I { s with record := e :: s.record }) :
    Keeps I H (Exec.record e) := Triple.record h

theorem forM {f : α → Exec P Unit} (hf : ∀ a, Keeps I H (f a)) (l : List α) :
    Keeps I H (l.forM f) := Triple.forM hf l

end Keeps
end Exec

/-! ### Calls that may fail -/

namespace Call

open Exec

variable {P : Platform} {α β : Type} {I H : State P → Prop}

theorem triple_bind {pre E : State P → Prop} {x : Call P α} {f : α → Call P β}
    {mid : Except CallError α → State P → Prop} {post : Except CallError β → State P → Prop}
    (hx : Triple pre x.run mid E H) (hf : ∀ a, Triple (mid (.ok a)) (f a).run post E H)
    (he : ∀ e s, mid (.error e) s → post (.error e) s) : Triple pre (x >>= f).run post E H := by
  rw [ExceptT.run_bind]
  refine Triple.bind hx fun r => ?_
  cases r with
  | ok a => exact hf a
  | error e => exact Triple.pure (he e)

/-- A call goes on from what it is seen to come to. -/
theorem gives_bind {s : State P} {x : Call P α} {f : α → Call P β}
    {post : Except CallError β → State P → Prop}
    (hf : ∀ a t, x.run s = (.value (.ok a), t) → Gives (· = t) (f a).run post)
    (he : ∀ e t, post (.error e) t) : Gives (· = s) (x >>= f).run post := by
  refine triple_bind Triple.self (fun a => ?_) fun e t _ => he e t
  exact Triple.of_pre fun t seen => hf a t seen

theorem keeps_bind {x : Call P α} {f : α → Call P β} (hx : Keeps I H x.run)
    (hf : ∀ a, Keeps I H (f a).run) : Keeps I H (x >>= f).run :=
  triple_bind hx hf fun _ _ h => h

theorem keeps_pure {a : α} : Keeps I H (pure a : Call P α).run := Keeps.pure

theorem keeps_throw_bind {e : CallError} {f : α → Call P β} :
    Keeps I H ((throw e : Call P α) >>= f).run := fun _ h => h

theorem keeps_lift {x : Exec P α} (hx : Keeps I H x) : Keeps I H (liftM x : Call P α).run :=
  hx.bind fun _ => Keeps.pure

theorem keeps_ofHost {x : Exec P (Except HostError α)} (hx : Keeps I H x) :
    Keeps I H (ofHost x).run := hx.bind fun _ => Keeps.pure

/-- Goes on with a result that is there already. -/
theorem keeps_bind_result {r : Except CallError α} {f : α → Call P β}
    (hf : ∀ a, r = .ok a → Keeps I H (f a).run) :
    Keeps I H ((ExceptT.mk (pure r) : Call P α) >>= f).run := by
  cases r with
  | ok a => exact hf a rfl
  | error e => exact Keeps.pure

theorem keeps_bind_ofDescriptor {r : Except DescriptorError α} {f : α → Call P β}
    (hf : ∀ a, r = .ok a → Keeps I H (f a).run) : Keeps I H (ofDescriptor r >>= f).run := by
  refine keeps_bind_result fun a h => hf a ?_
  cases r with
  | ok b => cases h; rfl
  | error e => cases h

theorem keeps_ensure {x : Call P α} {after : Exec P Unit} (hx : Keeps I H x.run)
    (ha : Keeps I H after) : Keeps I H (ensure x after).run := Keeps.ensure hx ha

end Call
end HostBridge
