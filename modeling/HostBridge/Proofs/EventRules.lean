import HostBridge.Bridge.Program

/-!
The rules of events. A log of what was registered and called says which handler stands for a kind of
event: that of the last registration for it. An event runs that handler, which may register others
and have further events delivered meanwhile, and gets its result, or the default of its kind.
-/
namespace HostBridge

variable {P : Platform} {α : Type}

/-- Something that concerns the handlers of events. -/
inductive RegistryEvent (P : Platform) where
  | registered (k : EventKind) (handler : Option P.Handler)
  | called (k : EventKind) (handler : P.Handler) (args : Args k.params)
  | drained
  | noted (n : P.Note)

/-- What has happened to the handlers so far, the newest first, and what the two sides keep for
themselves. -/
structure Registry (P : Platform) where
  log : List (RegistryEvent P)
  sides : P.Ledger × P.World

namespace Registry

/-- The handler of the last registration for a kind; there is none if that one took it away. -/
def lastRegistered (k : EventKind) : List (RegistryEvent P) → Option P.Handler
  | [] => none
  | .registered j handler :: earlier => if j = k then handler else lastRegistered k earlier
  | .called _ _ _ :: earlier => lastRegistered k earlier
  | .drained :: earlier => lastRegistered k earlier
  | .noted _ :: earlier => lastRegistered k earlier

def handler (g : Registry P) (k : EventKind) : Option P.Handler := lastRegistered k g.log

def add (g : Registry P) (e : RegistryEvent P) : Registry P := { g with log := e :: g.log }

/-- The microtasks are about to run, if they do after events of the kind. -/
def turn (g : Registry P) (k : EventKind) : Registry P :=
  if k.drainsMicrotasks then g.add .drained else g

/-- A handler stands for a kind if its registration is the last one for that kind. -/
theorem handler_eq_some {g : Registry P} {k : EventKind} {h : P.Handler} :
    g.handler k = some h ↔ ∃ later earlier, g.log = later ++ .registered k (some h) :: earlier ∧
      ∀ other, .registered k other ∉ later := by
  unfold handler
  generalize g.log = log
  induction log with
  | nil => simp [lastRegistered]
  | cons e log ih =>
    have other (differs : ∀ x, e ≠ .registered k x)
        (same : lastRegistered k (e :: log) = lastRegistered k log) :
        lastRegistered k (e :: log) = some h ↔ ∃ later earlier,
          e :: log = later ++ .registered k (some h) :: earlier ∧
            ∀ x, .registered k x ∉ later := by
      rw [same, ih]
      constructor
      · rintro ⟨later, earlier, rfl, last⟩
        refine ⟨e :: later, earlier, rfl, fun x mem => ?_⟩
        rcases List.mem_cons.mp mem with here | before
        · exact differs x here.symm
        · exact last x before
      · rintro ⟨later, earlier, split, last⟩
        cases later with
        | nil =>
          cases split
          exact (differs _ rfl).elim
        | cons e' later =>
          cases split
          exact ⟨later, earlier, rfl, fun x mem => last x (List.mem_cons_of_mem _ mem)⟩
    cases e with
    | registered j x =>
      by_cases same : j = k
      · subst same
        have here : lastRegistered j (.registered j x :: log) = x := by simp [lastRegistered]
        rw [here]
        constructor
        · rintro rfl
          exact ⟨[], log, rfl, fun _ => List.not_mem_nil⟩
        · rintro ⟨later, earlier, split, last⟩
          cases later with
          | nil =>
            cases split
            rfl
          | cons e' later =>
            cases split
            exact (last x List.mem_cons_self).elim
      · apply other
        · rintro x h
          cases h
          exact same rfl
        · simp [lastRegistered, same]
    | _ => exact other (fun _ => nofun) rfl

end Registry

/-- The microtasks that run after an event. -/
def Foreign.afterward (F : Foreign P (Act P)) (k : EventKind) : Act P (Except VmError Unit) :=
  if k.drainsMicrotasks then F.vm.drain else .pure (.ok ())

/-- By the rules, a program goes from one registry to another and gives a result, or a panic with
its message. Programs of other sorts than these have no rules. -/
inductive Foreign.Runs (F : Foreign P (Act P)) : {α : Type} → Act P α → Registry P →
    Except String α → Registry P → Prop
  | pure {α : Type} (a : α) (g : Registry P) : Runs F (.pure a) g (.ok a) g
  | panic {α : Type} (m : String) (g : Registry P) : Runs F (.panic m : Act P α) g (.error m) g
  | bind {α β : Type} {x : Act P β} {f : β → Act P α} {b : β} {r : Except String α}
      {g g' g'' : Registry P} :
    Runs F x g (.ok b) g' → Runs F (f b) g' r g'' → Runs F (.bind x f) g r g''
  | unwind {α β : Type} {x : Act P β} {f : β → Act P α} {m : String} {g g' : Registry P} :
    Runs F x g (.error m) g' → Runs F (.bind x f) g (.error m) g'
  | attempt {α : Type} {x : Act P α} {r : Except String α} {g g' : Registry P} :
    Runs F x g r g' → Runs F (.attempt x) g (.ok r) g'
  | note (n : P.Note) (g : Registry P) : Runs F (.note n) g (.ok ()) (g.add (.noted n))
  | world {α : Type} (f : P.World → α × P.World) (g : Registry P) :
    Runs F (.world f) g (.ok (f g.sides.2).1) { g with sides := (g.sides.1, (f g.sides.2).2) }
  -- registrations, also of no handler
  | register (k : EventKind) (handler : Option P.Handler) (g : Registry P) :
    Runs F (.op (.setHandler k handler)) g (.ok ()) (g.add (.registered k handler))
  -- the handler that stands for a kind is called on the spot
  | absent {k : EventKind} {args : Args k.params} {g : Registry P} :
    g.handler k = none → Runs F (.op (.callHandler k args)) g (.ok k.default) g
  | present {k : EventKind} {args : Args k.params} {h : P.Handler} {r : Except String k.Output}
      {g g' : Registry P} :
    g.handler k = some h → Runs F (F.handler h k args) (g.add (.called k h args)) r g' →
      Runs F (.op (.callHandler k args)) g r g'
  -- an event is delivered
  | delivered {k : EventKind} {args : Args k.params} {x : k.Output} {y : Except VmError Unit}
      {g g' g'' : Registry P} :
    Runs F (.op (.callHandler k args)) g (.ok x) g' →
      Runs F (F.afterward k) (g'.turn k) (.ok y) g'' → Runs F (.op (.dispatch k args)) g (.ok x) g''
  | panicked {k : EventKind} {args : Args k.params} {m : String} {y : Except VmError Unit}
      {g g' g'' : Registry P} :
    Runs F (.op (.callHandler k args)) g (.error m) g' →
      Runs F (F.afterward k) (g'.turn k) (.ok y) g'' →
        Runs F (.op (.dispatch k args)) g (.ok k.default) g''

/-! ### What the rules leave open -/

/-- What a call of a handler on the spot comes to by the rules. -/
def Foreign.Calls (F : Foreign P (Act P)) (k : EventKind) (args : Args k.params)
    (g : Registry P) (r : Except String k.Output) (g' : Registry P) : Prop :=
  match g.handler k with
  | none => r = .ok k.default ∧ g' = g
  | some h => F.Runs (F.handler h k args) (g.add (.called k h args)) r g'

/-- What an event answers once its handler was called: the default of the kind after a panic. -/
def EventKind.answer (k : EventKind) : Except String k.Output → k.Output
  | .ok x => x
  | .error _ => k.default

/-- What the delivery of an event comes to. -/
def Foreign.Delivers (F : Foreign P (Act P)) (k : EventKind) (args : Args k.params)
    (g : Registry P) (r : Except String k.Output) (g' : Registry P) : Prop :=
  ∃ x y g₁, F.Runs (.op (.callHandler k args)) g x g₁ ∧
    F.Runs (F.afterward k) (g₁.turn k) (.ok y) g' ∧ r = .ok (k.answer x)

/-- What a call of the interface comes to. -/
def Foreign.Answers (F : Foreign P (Act P)) {α : Type} : Op P α → Registry P →
    Except String α → Registry P → Prop
  | .setHandler k handler, g, r, g' => r = .ok () ∧ g' = g.add (.registered k handler)
  | .dispatch k args, g, r, g' => F.Delivers k args g r g'
  | .callHandler k args, g, r, g' => F.Calls k args g r g'
  | _, _, _, _ => False

/-- What a program comes to. -/
def Foreign.Results (F : Foreign P (Act P)) {α : Type} : Act P α → Registry P →
    Except String α → Registry P → Prop
  | .pure a, g, r, g' => r = .ok a ∧ g' = g
  | .bind x f, g, r, g' =>
    (∃ b g₁, F.Runs x g (.ok b) g₁ ∧ F.Runs (f b) g₁ r g') ∨
      ∃ m, F.Runs x g (.error m) g' ∧ r = .error m
  | .panic m, g, r, g' => r = .error m ∧ g' = g
  | .attempt x, g, r, g' => ∃ r', F.Runs x g r' g' ∧ r = .ok r'
  | .note n, g, r, g' => r = .ok () ∧ g' = g.add (.noted n)
  | .world f, g, r, g' =>
    r = .ok (f g.sides.2).1 ∧ g' = { g with sides := (g.sides.1, (f g.sides.2).2) }
  | .op o, g, r, g' => F.Answers o g r g'
  | .extra _, _, _, _ => False

namespace Foreign.Runs

variable {F : Foreign P (Act P)} {a : Act P α} {g g' g'' : Registry P} {r r' : Except String α}

/-- A run got where it is by one of the rules. -/
theorem results (h : F.Runs a g r g') : F.Results a g r g' := by
  cases h with
  | pure | panic | note | world | register => exact ⟨rfl, rfl⟩
  | bind hx hf => exact .inl ⟨_, _, hx, hf⟩
  | unwind hx => exact .inr ⟨_, hx, rfl⟩
  | attempt hx => exact ⟨_, hx, rfl⟩
  | absent none =>
    change F.Calls _ _ _ _ _
    unfold Calls
    rw [none]
    exact ⟨rfl, rfl⟩
  | present some run =>
    change F.Calls _ _ _ _ _
    unfold Calls
    rw [some]
    exact run
  | delivered call after => exact ⟨_, _, _, call, after, rfl⟩
  | panicked call after => exact ⟨_, _, _, call, after, rfl⟩

/-- A program comes to one end by the rules. -/
theorem unique (h : F.Runs a g r g') (h' : F.Runs a g r' g'') : r = r' ∧ g' = g'' := by
  induction h generalizing g'' with
  | pure | panic | note | world | register =>
    obtain ⟨rfl, rfl⟩ := h'.results
    exact ⟨rfl, rfl⟩
  | bind hx hf ihx ihf =>
    rcases h'.results with ⟨b, g₁, hx', hf'⟩ | ⟨m, hx', rfl⟩
    · obtain ⟨same, rfl⟩ := ihx hx'
      cases same
      exact ihf hf'
    · cases (ihx hx').1
  | unwind hx ihx =>
    rcases h'.results with ⟨b, g₁, hx', hf'⟩ | ⟨m, hx', rfl⟩
    · cases (ihx hx').1
    · obtain ⟨same, rfl⟩ := ihx hx'
      cases same
      exact ⟨rfl, rfl⟩
  | attempt hx ihx =>
    obtain ⟨r₁, hx', rfl⟩ := h'.results
    obtain ⟨rfl, rfl⟩ := ihx hx'
    exact ⟨rfl, rfl⟩
  | absent none =>
    have h : F.Calls _ _ _ _ _ := h'.results
    unfold Calls at h
    rw [none] at h
    obtain ⟨rfl, rfl⟩ := h
    exact ⟨rfl, rfl⟩
  | present some run ih =>
    have h : F.Calls _ _ _ _ _ := h'.results
    unfold Calls at h
    rw [some] at h
    exact ih h
  | delivered call after ihcall ih =>
    obtain ⟨x, y, g₁, call', after', rfl⟩ := h'.results
    obtain ⟨rfl, rfl⟩ := ihcall call'
    exact ⟨rfl, (ih after').2⟩
  | panicked call after ihcall ih =>
    obtain ⟨x, y, g₁, call', after', rfl⟩ := h'.results
    obtain ⟨rfl, rfl⟩ := ihcall call'
    exact ⟨rfl, (ih after').2⟩

/-- An event answers whatever came of its handler. -/
theorem answered {k : EventKind} {args : Args k.params} {x : Except String k.Output}
    {y : Except VmError Unit} (call : F.Runs (.op (.callHandler k args)) g x g')
    (after : F.Runs (F.afterward k) (g'.turn k) (.ok y) g'') :
    F.Runs (.op (.dispatch k args)) g (.ok (k.answer x)) g'' := by
  cases x with
  | ok x => exact delivered call after
  | error m => exact panicked call after

end Foreign.Runs
end HostBridge
