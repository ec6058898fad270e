import HostBridge.Proofs.Triple

/-!
Pairs of executions. Two computations are alike when from related states they end in the same way,
in related states. A bound on how deep foreign code nests is no part of a program, so nothing is
said where one of the two runs reaches it.
-/
namespace HostBridge

/-- A result, or a panic, as an outcome. -/
def Outcome.ofResult {α : Type} : Except String α → Outcome α
  | .ok a => .value a
  | .error m => .panic m

namespace Exec

variable {P : Platform} {α β : Type}

/-- Foreign code nests too deep. -/
def NestsTooDeep (x : Exec P α) (s : State P) : Prop := (x s).1 = .halt .nesting

/-- From `pre`, a value comes with `post`, unless foreign code nests too deep where it is `deep`
that it may. -/
def Returns (pre : State P → Prop) (x : Exec P α) (post : α → State P → Prop)
    (deep : Prop := True) : Prop :=
  ∀ s, pre s → deep ∧ x.NestsTooDeep s ∨ ∃ a t, x s = (.value a, t) ∧ post a t

/-- From states that `R` relates, both computations end in the same way, in states that `R` relates,
unless foreign code nests too deep in one of them. -/
def Alike (R : State P → State P → Prop) (x y : Exec P α) : Prop :=
  ∀ s t, R s t → x.NestsTooDeep s ∨ y.NestsTooDeep t ∨ (x s).1 = (y t).1 ∧ R (x s).2 (y t).2

theorem NestsTooDeep.bind {x : Exec P α} {s : State P} (h : x.NestsTooDeep s)
    (f : α → Exec P β) : (x >>= f).NestsTooDeep s := by
  unfold NestsTooDeep at h ⊢
  rw [run_bind]
  rcases hx : x s with ⟨a | m | w, t⟩ <;> rw [hx] at h
  · cases h
  · cases h
  · cases h
    rfl

theorem NestsTooDeep.attempt {x : Exec P α} {s : State P} (h : x.NestsTooDeep s) :
    x.attempt.NestsTooDeep s := by
  unfold NestsTooDeep at h ⊢
  unfold Exec.attempt
  rcases hx : x s with ⟨a | m | w, t⟩ <;> rw [hx] at h
  · cases h
  · cases h
  · cases h
    rfl

/-- An attempt nests no deeper. -/
theorem NestsTooDeep.of_attempt {x : Exec P α} {s : State P} (h : x.attempt.NestsTooDeep s) :
    x.NestsTooDeep s := by
  unfold NestsTooDeep Exec.attempt at h
  unfold NestsTooDeep
  rcases hx : x s with ⟨a | m | w, t⟩ <;> rw [hx] at h
  · cases h
  · cases h
  · cases h
    rfl

/-- What an attempt comes to is what came of the computation. -/
theorem of_attempt_value {x : Exec P α} {s t : State P} {r : Except String α}
    (h : x.attempt s = (.value r, t)) : x s = (.ofResult r, t) := by
  unfold Exec.attempt at h
  rcases hx : x s with ⟨a | m | w, u⟩ <;> rw [hx] at h
  · cases h
    rfl
  · cases h
    rfl
  · cases h

/-! ### Computations that return -/

namespace Returns

variable {pre : State P → Prop} {x : Exec P α} {mid : α → State P → Prop}
  {post : β → State P → Prop} {deep : Prop}

theorem pure {a : α} (h : ∀ s, pre s → mid a s) : Returns pre (pure a : Exec P α) mid deep :=
  fun s hs => .inr ⟨a, s, rfl, h s hs⟩

theorem bind {f : α → Exec P β} (hx : Returns pre x mid deep)
    (hf : ∀ a, Returns (mid a) (f a) post deep) : Returns pre (x >>= f) post deep := by
  intro s hs
  rcases hx s hs with ⟨may, nests⟩ | ⟨a, t, ran, ht⟩
  · exact .inl ⟨may, nests.bind f⟩
  · have next : (x >>= f) s = f a t := by rw [run_bind, ran]
    unfold NestsTooDeep
    rw [next]
    exact hf a t ht

theorem of_imp {pre' : State P → Prop} (h : Returns pre x mid deep)
    (hpre : ∀ s, pre' s → pre s) : Returns pre' x mid deep :=
  fun s hs => h s (hpre s hs)

theorem weaken {mid' : α → State P → Prop} (h : Returns pre x mid deep)
    (hmid : ∀ a s, mid a s → mid' a s) : Returns pre x mid' deep := by
  intro s hs
  rcases h s hs with nests | ⟨a, t, ran, ht⟩
  · exact .inl nests
  · exact .inr ⟨a, t, ran, hmid a t ht⟩

theorem of_and {p : Prop} (h : p → Returns pre x mid deep) :
    Returns (fun s => p ∧ pre s) x mid deep :=
  fun s ⟨hp, hs⟩ => h hp s hs

/-- What is known of something that there is may be assumed of it. -/
theorem of_some {ι : Type} {p : ι → Prop} {pre : ι → State P → Prop}
    (h : ∀ i, p i → Returns (pre i) x mid deep) :
    Returns (fun s => ∃ i, p i ∧ pre i s) x mid deep :=
  fun s ⟨i, hp, hs⟩ => h i hp s hs

/-- What the state says is remembered. -/
theorem asks {f : State P → α} :
    Returns pre (Exec.gets f) (fun a s => a = f s ∧ pre s) deep :=
  fun s hs => .inr ⟨f s, s, rfl, rfl, hs⟩

theorem modify {f : State P → State P} {after : Unit → State P → Prop}
    (h : ∀ s, pre s → after () (f s)) : Returns pre (Exec.modify f) after deep :=
  fun s hs => .inr ⟨(), f s, rfl, h s hs⟩

theorem attempt (hx : Returns pre x mid deep) :
    Returns pre x.attempt (fun r s => ∃ a, r = .ok a ∧ mid a s) deep := by
  intro s hs
  rcases hx s hs with ⟨may, nests⟩ | ⟨a, t, ran, ht⟩
  · exact .inl ⟨may, nests.attempt⟩
  · refine .inr ⟨.ok a, t, ?_, a, rfl, ht⟩
    unfold Exec.attempt
    rw [ran]

/-- An attempt of a sequence is over with the first panic. -/
theorem attempt_bind {f : α → Exec P β} {mid : Except String α → State P → Prop}
    {post : Except String β → State P → Prop} (hx : Returns pre x.attempt mid deep)
    (hf : ∀ a, Returns (mid (.ok a)) (f a).attempt post deep)
    (panicked : ∀ m s, mid (.error m) s → post (.error m) s) :
    Returns pre (x >>= f).attempt post deep := by
  have split : (x >>= f).attempt = x.attempt >>= fun r =>
      match r with
      | .ok a => (f a).attempt
      | .error m => Pure.pure (.error m) := by
    funext s
    rw [run_bind]
    unfold Exec.attempt
    rw [run_bind]
    rcases x s with ⟨a | m | w, t⟩ <;> rfl
  rw [split]
  apply hx.bind
  intro r
  cases r with
  | ok a => exact hf a
  | error m => exact pure (panicked m)

theorem ensure {last : α → State P → Prop} {after : Exec P Unit} (hx : Returns pre x mid deep)
    (ha : ∀ a, Returns (mid a) after (fun _ => last a) deep) :
    Returns pre (x.ensure after) last deep := by
  unfold Exec.ensure
  refine hx.attempt.bind fun r s => ?_
  rintro ⟨a, rfl, hs⟩
  exact (ha a).bind (fun _ => pure fun _ h => h) s hs

/-- What comes after a panic has no part in it. -/
theorem onPanic {after : Exec P Unit} (hx : Returns pre x mid deep) :
    Returns pre (x.onPanic after) mid deep := by
  unfold Exec.onPanic
  refine hx.attempt.bind fun r s => ?_
  rintro ⟨a, rfl, hs⟩
  exact pure (fun _ h => h) s hs

/-- A computation that was attempted without a panic. -/
theorem of_attempt {mid : Except String α → State P → Prop} (h : Returns pre x.attempt mid deep)
    (calm : ∀ m s, ¬mid (.error m) s) : Returns pre x (fun a => mid (.ok a)) deep := by
  intro s hs
  have hx := h s hs
  unfold NestsTooDeep Exec.attempt at hx
  unfold NestsTooDeep
  rcases ran : x s with ⟨a | m | w, t⟩ <;> rw [ran] at hx
  · rcases hx with ⟨-, nests⟩ | ⟨r, u, same, hu⟩
    · cases nests
    · cases same
      exact .inr ⟨a, t, rfl, hu⟩
  · rcases hx with ⟨-, nests⟩ | ⟨r, u, same, hu⟩
    · cases nests
    · cases same
      exact (calm m t hu).elim
  · rcases hx with ⟨may, nests⟩ | ⟨r, u, same, hu⟩
    · cases nests
      exact .inl ⟨may, rfl⟩
    · cases same

theorem forM {I : State P → Prop} {f : α → Exec P Unit}
    (hf : ∀ a, Returns I (f a) (fun _ => I) deep) (l : List α) :
    Returns I (l.forM f) (fun _ => I) deep := by
  induction l with
  | nil => exact pure fun _ h => h
  | cons a l ih => exact (hf a).bind fun _ => ih

end Returns

/-! ### Computations that are alike -/

namespace Alike

variable {R : State P → State P → Prop} {x y : Exec P α} {f g : α → Exec P β}

theorem pure {a : α} : Alike R (pure a) (pure a) := fun _ _ h => .inr (.inr ⟨rfl, h⟩)

theorem panic {m : String} : Alike R (Exec.panic m : Exec P α) (Exec.panic m) :=
  fun _ _ h => .inr (.inr ⟨rfl, h⟩)

theorem halt {w : Halt} : Alike R (Exec.halt w : Exec P α) (Exec.halt w) :=
  fun _ _ h => .inr (.inr ⟨rfl, h⟩)

theorem gets {f g : State P → α} (h : ∀ s t, R s t → f s = g t) :
    Alike R (Exec.gets f) (Exec.gets g) :=
  fun s t hst => .inr (.inr ⟨congrArg Outcome.value (h s t hst), hst⟩)

theorem modify {f g : State P → State P} (h : ∀ s t, R s t → R (f s) (g t)) :
    Alike R (Exec.modify f) (Exec.modify g) :=
  fun s t hst => .inr (.inr ⟨rfl, h s t hst⟩)

theorem bind (hx : Alike R x y) (hf : ∀ a, Alike R (f a) (g a)) :
    Alike R (x >>= f) (y >>= g) := by
  intro s t hst
  rcases hx s t hst with deep | deep | ⟨same, hst'⟩
  · exact .inl (deep.bind f)
  · exact .inr (.inl (deep.bind g))
  · unfold NestsTooDeep
    rw [run_bind, run_bind]
    rcases hx : x s with ⟨r, s'⟩
    rcases hy : y t with ⟨r', t'⟩
    rw [hx, hy] at same hst'
    dsimp only at same
    subst same
    cases r with
    | value a => exact hf a s' t' hst'
    | panic m => exact .inr (.inr ⟨rfl, hst'⟩)
    | halt w => exact .inr (.inr ⟨rfl, hst'⟩)

theorem attempt (hx : Alike R x y) : Alike R x.attempt y.attempt := by
  intro s t hst
  rcases hx s t hst with deep | deep | ⟨same, hst'⟩
  · exact .inl deep.attempt
  · exact .inr (.inl deep.attempt)
  · refine .inr (.inr ?_)
    unfold Exec.attempt
    rcases hx : x s with ⟨r, s'⟩
    rcases hy : y t with ⟨r', t'⟩
    rw [hx, hy] at same hst'
    dsimp only at same
    subst same
    cases r <;> exact ⟨rfl, hst'⟩

theorem ensure {after after' : Exec P Unit} (hx : Alike R x y) (ha : Alike R after after') :
    Alike R (x.ensure after) (y.ensure after') := by
  unfold Exec.ensure
  refine hx.attempt.bind fun r => ha.bind fun _ => ?_
  cases r with
  | ok a => exact pure
  | error m => exact panic

theorem discard (hx : Alike R x y) : Alike R (Functor.discard x) (Functor.discard y) :=
  hx.bind fun _ => pure

theorem forM {f g : α → Exec P Unit} (hf : ∀ a, Alike R (f a) (g a)) (l : List α) :
    Alike R (l.forM f) (l.forM g) := by
  induction l with
  | nil => exact pure
  | cons a l ih => exact (hf a).bind fun _ => ih

/-- Two computations that return the same are alike. -/
theorem of_returns {a : α} (hx : ∀ s t, R s t → Returns (· = s) x fun b u => b = a ∧ R u t)
    (hy : ∀ s t, R s t → Returns (· = t) y fun b u => b = a ∧ R s u) : Alike R x y := by
  intro s t hst
  rcases hx s t hst s rfl with ⟨-, deep⟩ | ⟨b, s', ran, rfl, hst'⟩
  · exact .inl deep
  rcases hy s' t hst' t rfl with ⟨-, deep⟩ | ⟨c, t', ran', rfl, hst''⟩
  · exact .inr (.inl deep)
  · rw [ran, ran']
    exact .inr (.inr ⟨rfl, hst''⟩)

end Alike

/-! ### Runs that agree -/

section
variable {x y : Exec P α} {s : State P}

theorem bind_agree {β : Type} {f g : α → Exec P β} (hx : x s = y s)
    (hf : ∀ a t, y s = (.value a, t) → f a t = g a t) : (x >>= f) s = (y >>= g) s := by
  rw [run_bind, run_bind, hx]
  rcases hy : y s with ⟨a | m | w, t⟩
  · exact hf a t hy
  · rfl
  · rfl

/-- Nothing goes on after a halt. -/
theorem bind_halt {β : Type} {f : α → Exec P β} {why : Halt} {t : State P}
    (h : x s = (.halt why, t)) : (x >>= f) s = (.halt why, t) := by
  rw [run_bind, h]

theorem attempt_agree (h : x s = y s) : x.attempt s = y.attempt s := by
  unfold attempt
  rw [h]

theorem ensure_agree {after : Exec P Unit} (h : x s = y s) :
    x.ensure after s = y.ensure after s :=
  bind_agree (attempt_agree h) fun _ _ _ => rfl

theorem ensure_halt {after : Exec P Unit} {why : Halt} {t : State P} (h : x s = (.halt why, t)) :
    x.ensure after s = (.halt why, t) := by
  have attempted : x.attempt s = (.halt why, t) := by
    unfold attempt
    rw [h]
  exact bind_halt attempted

theorem discard_agree (h : x s = y s) : Functor.discard x s = Functor.discard y s := by
  unfold Functor.discard Functor.mapConst
  exact bind_agree h fun _ _ _ => rfl

end

/-- From the states of `I`, two computations do the same. -/
def Agree (I : State P → Prop) (x y : Exec P α) : Prop := ∀ s, I s → x s = y s

namespace Agree

variable {I : State P → Prop} {x y : Exec P α}

theorem refl : Agree I x x := fun _ _ => rfl

theorem bind {β : Type} {J : α → State P → Prop} {f g : α → Exec P β} (hx : Agree I x y)
    (keeps : Gives I y J) (hf : ∀ a, Agree (J a) (f a) (g a)) :
    Agree I (x >>= f) (y >>= g) := by
  intro s hs
  refine bind_agree (hx s hs) fun a t ran => hf a t ?_
  have h := keeps s hs
  rw [ran] at h
  exact h

/-- What comes after is the same. -/
theorem bind_same {β : Type} {f : α → Exec P β} (hx : Agree I x y) :
    Agree I (x >>= f) (y >>= f) := fun s hs => bind_agree (hx s hs) fun _ _ _ => rfl

/-- What is said of a computation is said of one that does the same. -/
theorem triple {pre E H : State P → Prop} {mid : α → State P → Prop} (h : Agree I x y)
    (hy : Triple pre y mid E H) (hpre : ∀ s, pre s → I s) : Triple pre x mid E H := by
  intro s hs
  rw [h s (hpre s hs)]
  exact hy s hs

/-- What is returned is returned by a computation that does the same. -/
theorem returns {post : α → State P → Prop} {deep : Prop} (h : Agree I x y)
    (hy : Returns I y post deep) : Returns I x post deep := by
  intro s hs
  unfold NestsTooDeep
  rw [h s hs]
  exact hy s hs

theorem attempt (hx : Agree I x y) : Agree I x.attempt y.attempt :=
  fun s hs => attempt_agree (hx s hs)

theorem ensure {after : Exec P Unit} (hx : Agree I x y) :
    Agree I (x.ensure after) (y.ensure after) := fun s hs => ensure_agree (hx s hs)

end Agree
end Exec

/-! ### Calls that may fail -/

namespace Call

open Exec

variable {P : Platform} {α β : Type} {R : State P → State P → Prop}

theorem alike_pure {a : α} : Alike R (pure a : Call P α).run (pure a : Call P α).run := Alike.pure

theorem alike_throw {e : CallError} :
    Alike R (throw e : Call P α).run (throw e : Call P α).run := Alike.pure

theorem alike_bind {x y : Call P α} {f g : α → Call P β} (hx : Alike R x.run y.run)
    (hf : ∀ a, Alike R (f a).run (g a).run) : Alike R (x >>= f).run (y >>= g).run := by
  rw [ExceptT.run_bind, ExceptT.run_bind]
  refine hx.bind fun r => ?_
  cases r with
  | ok a => exact hf a
  | error e => exact Alike.pure

/-- Both go on with a result that is there already. -/
theorem alike_bind_result {r : Except CallError α} {f g : α → Call P β}
    (hf : ∀ a, Alike R (f a).run (g a).run) :
    Alike R ((ExceptT.mk (pure r) : Call P α) >>= f).run
      ((ExceptT.mk (pure r) : Call P α) >>= g).run :=
  alike_bind Alike.pure hf

theorem alike_lift {x y : Exec P α} (h : Alike R x y) :
    Alike R (liftM x : Call P α).run (liftM y : Call P α).run :=
  h.bind fun _ => Alike.pure

theorem alike_ofHost {x y : Exec P (Except HostError α)} (h : Alike R x y) :
    Alike R (ofHost x).run (ofHost y).run :=
  h.bind fun _ => Alike.pure

theorem alike_ensure {x y : Call P α} {after after' : Exec P Unit} (hx : Alike R x.run y.run)
    (ha : Alike R after after') : Alike R (ensure x after).run (ensure y after').run :=
  Alike.ensure hx ha

section
variable {I J : State P → Prop} {f g : α → Call P β}

theorem agree_bind {x y : Call P α} (hx : Agree I x.run y.run) (keeps : Gives I y.run fun _ => J)
    (hf : ∀ a, Agree J (f a).run (g a).run) : Agree I (x >>= f).run (y >>= g).run := by
  rw [ExceptT.run_bind, ExceptT.run_bind]
  refine Agree.bind hx keeps fun r => ?_
  cases r with
  | ok a => exact hf a
  | error e => exact Agree.refl

theorem agree_throw_bind {e : CallError} :
    Agree I ((throw e : Call P α) >>= f).run ((throw e : Call P α) >>= g).run := fun _ _ => rfl

/-- Both go on with a result that is there already. -/
theorem agree_bind_result {r : Except CallError α} (hf : ∀ a, Agree I (f a).run (g a).run) :
    Agree I ((ExceptT.mk (pure r) : Call P α) >>= f).run
      ((ExceptT.mk (pure r) : Call P α) >>= g).run :=
  agree_bind Agree.refl (Triple.pure fun _ h => h) hf

theorem agree_ofHost_bind {x y : Exec P (Except HostError α)} (hx : Agree I x y)
    (keeps : Gives I y fun _ => J) (hf : ∀ a, Agree J (f a).run (g a).run) :
    Agree I (ofHost x >>= f).run (ofHost y >>= g).run :=
  agree_bind (Agree.bind hx keeps fun _ => Agree.refl)
    (keeps.bind fun _ => Triple.pure fun _ h => h) hf

end

end Call
end HostBridge
