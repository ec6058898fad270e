import HostBridge.Proofs.CacheTransparency
import HostBridge.Proofs.EventDuty

/-!
Events are delivered by the rules. Programs that register handlers and have events delivered, and
the handlers and microtasks that do the same while they run, get what the rules say from a session
that runs, and leave the guard, the scopes of the VM and the session as they were.
-/
namespace HostBridge

open Exec

variable {P : Platform} {α : Type} {σ : Sight P}

namespace System

variable {F : Foreign P (Act P)} {limit : Nat} {g : Registry P} {v : Station P} {deep : Prop}

/-! ### Programs -/

/-- From a registry and a station, a program comes to an end that the rules have, and its thread is
where it was. -/
def Abides (F : Foreign P (Act P)) (σ : Sight P) (deep : Prop) (limit : Nat) (a : Act P α)
    (g : Registry P) (v : Station P) : Prop :=
  Returns (OnDuty σ g v) ((ofPrograms F).exec limit a).attempt
    (fun r s => ∃ g', F.Runs a g r g' ∧ OnDuty σ g' v s) deep

theorem bind_abides {x : Act P α} {β : Type} {f : α → Act P β}
    (hx : Abides F σ deep (limit + 1) x g v)
    (hf : ∀ b g', F.Runs x g (.ok b) g' → Abides F σ deep (limit + 1) (f b) g' v) :
    Abides F σ deep (limit + 1) (.bind x f) g v := by
  apply Returns.attempt_bind hx
  · intro b
    apply Returns.of_some
    intro g' run
    apply (hf b g' run).weaken
    rintro r s ⟨g'', run', hs⟩
    exact ⟨g'', .bind run run', hs⟩
  · rintro m s ⟨g', run, hs⟩
    exact ⟨g', .unwind run, hs⟩

theorem attempt_abides {x : Act P α} (hx : Abides F σ deep (limit + 1) x g v) :
    Abides F σ deep (limit + 1) (.attempt x) g v := by
  apply hx.attempt.weaken
  rintro r s ⟨r', rfl, g', run, hs⟩
  exact ⟨g', .attempt run, hs⟩

theorem world_abides {f : P.World → α × P.World} (tells : σ.Tells f) :
    Abides F σ deep (limit + 1) (.world f) g v := by
  apply (OnDuty.useWorld tells).attempt.weaken
  rintro r s ⟨a, rfl, rfl, hs⟩
  exact ⟨_, .world f g, hs⟩

theorem note_abides (n : P.Note) : Abides F σ deep (limit + 1) (.note n) g v := by
  apply (OnDuty.log (x := .noted n) rfl rfl rfl rfl).attempt.weaken
  rintro r s ⟨⟨⟩, rfl, hs⟩
  exact ⟨_, .note n g, hs⟩

theorem register_abides (k : EventKind) (handler : Option P.Handler) :
    Abides F σ deep (limit + 1) (.op (.setHandler k handler)) g v := by
  apply (OnDuty.register k handler).attempt.weaken
  rintro r s ⟨⟨⟩, rfl, hs⟩
  exact ⟨_, .register k handler g, hs⟩

/-- The handler that stands for a kind is called. -/
theorem callHandler_abides {k : EventKind} {args : Args k.params}
    (called : ∀ h, g.handler k = some h →
      Abides F σ deep limit (F.handler h k args) (g.add (.called k h args)) v) :
    Abides F σ deep (limit + 1) (.op (.callHandler k args)) g v := by
  change Returns _ (Dispatch.callHandler ((ofPrograms F).foreign limit) k args).attempt _ _
  have looked : Agree (OnDuty σ g v) (Dispatch.callHandler ((ofPrograms F).foreign limit) k args)
      ((g.handler k).elim (pure k.default) fun h =>
        ((ofPrograms F).foreign limit).callHandler h k args) := by
    rintro s ⟨shows, rfl⟩
    rw [← shows.handlers]
    unfold Dispatch.callHandler
    rw [run_bind, Exec.bridge, run_gets]
    dsimp only
    cases s.bridge.handlers k <;> rfl
  cases handled : g.handler k with
  | none =>
    rw [handled] at looked
    apply looked.attempt.returns
    exact Returns.pure fun s hs => ⟨g, .absent handled, hs⟩
  | some h =>
    rw [handled] at looked
    apply looked.attempt.returns
    change Returns _ (Exec.record (.handlerCall k h args) >>= fun _ =>
      ((ofPrograms F).exec limit (F.handler h k args)).attempt) _ _
    apply (OnDuty.log (x := .called k h args) rfl rfl rfl rfl).bind
    intro _
    apply (called h handled).weaken
    rintro r s ⟨g', run, hs⟩
    exact ⟨g', .present handled run, hs⟩

section
variable (serves : F.ServesEvents σ)
include serves

/-- The microtasks run. -/
theorem drain_returns {k : EventKind} (drains : k.drainsMicrotasks = true)
    (after : Abides F σ deep limit (F.afterward k) (g.turn k) v) :
    Returns (OnDuty σ g v) (Isolate.drain ((ofPrograms F).foreign limit))
      (fun _ s => ∃ y g', F.Runs (F.afterward k) (g.turn k) (.ok y) g' ∧ OnDuty σ g' v s)
      deep := by
  have drain : F.afterward k = F.vm.drain := if_pos drains
  have turn : g.turn k = g.add .drained := if_pos drains
  rw [drain, turn] at after ⊢
  have called : Returns (OnDuty σ g v) ((ofPrograms F).foreign limit).vm.callDrain
      (fun y s => ∃ g', F.Runs F.vm.drain (g.add .drained) (.ok y) g' ∧ OnDuty σ g' v s)
      deep := by
    apply (OnDuty.log (x := .drained) rfl rfl rfl rfl).bind
    intro _
    apply (after.of_attempt fun m s ⟨g', run, _⟩ => serves.calm _ m g' run).bind
    intro y
    apply Returns.of_some
    intro g' run
    apply (OnDuty.record rfl rfl).bind
    exact fun _ => Returns.pure fun s hs => ⟨g', run, hs⟩
  apply called.bind
  intro y
  apply Returns.of_some
  intro g' run
  cases y with
  | ok x => exact Returns.pure fun s hs => ⟨_, g', run, hs⟩
  | error e => exact (OnDuty.record rfl rfl).weaken fun _ s hs => ⟨_, g', run, hs⟩

variable (shallow : deep ∨ 0 < limit) {k : EventKind} {args : Args k.params}
include shallow

/-- The handler is called in a scope, and the microtasks run after it. -/
theorem deliver_returns
    (called : ∀ w : Station P, w.IsOpen →
      Abides F σ deep (limit + 1) (.op (.callHandler k args)) g w)
    (after : ∀ x g₁, F.Runs (.op (.callHandler k args)) g x g₁ → ∀ w : Station P, w.IsOpen →
      Abides F σ deep limit (F.afterward k) (g₁.turn k) w)
    (isOpen : v.IsOpen) :
    Returns (OnDuty σ g v) (Dispatch.deliver ((ofPrograms F).foreign limit) k args)
      (fun x s => ∃ g', F.Runs (.op (.dispatch k args)) g (.ok x) g' ∧ OnDuty σ g' v s) deep := by
  have inside := isOpen.inScopes 1
  unfold Dispatch.deliver
  apply (inScope_returns shallow serves
    (fun r g' => F.Runs (.op (.dispatch k args)) g (.ok (k.answer r)) g') ?_).bind
  · intro r
    apply Returns.of_some
    intro g' run
    cases r with
    | ok x => exact Returns.pure fun s hs => ⟨g', run, hs⟩
    | error m =>
      apply (OnDuty.record rfl rfl).bind
      exact fun _ => Returns.pure fun s hs => ⟨g', run, hs⟩
  · apply (called _ inside).bind
    intro r
    apply Returns.of_some
    intro g₁ call
    have after := after r g₁ call _ inside
    cases drains : k.drainsMicrotasks with
    | true =>
      apply (drain_returns serves drains after).bind
      intro _
      apply Returns.pure
      rintro s ⟨y, g', after, hs⟩
      exact ⟨g', call.answered after, hs⟩
    | false =>
      apply Returns.pure
      intro s hs
      have none : F.afterward k = .pure (.ok ()) := if_neg (by simp [drains])
      have turn : g₁.turn k = g₁ := if_neg (by simp [drains])
      have after : F.Runs (F.afterward k) (g₁.turn k) (.ok (.ok ())) g₁ := by
        rw [none, turn]
        exact .pure _ _
      exact ⟨g₁, call.answered after, hs⟩

/-- An event is delivered. -/
theorem dispatch_abides
    (called : ∀ w : Station P, w.IsOpen →
      Abides F σ deep (limit + 1) (.op (.callHandler k args)) g w)
    (after : ∀ x g₁, F.Runs (.op (.callHandler k args)) g x g₁ → ∀ w : Station P, w.IsOpen →
      Abides F σ deep limit (F.afterward k) (g₁.turn k) w)
    (isOpen : v.IsOpen) :
    Abides F σ deep (limit + 1) (.op (.dispatch k args)) g v := by
  have within {e : Entry} (admits : v.Admits e) : Returns (OnDuty σ g (v.enter e))
      ((Dispatch.deliver ((ofPrograms F).foreign limit) k args).ensure
        (Isolate.leave ((ofPrograms F).foreign limit) e))
      (fun x s => ∃ g', F.Runs (.op (.dispatch k args)) g (.ok x) g' ∧ OnDuty σ g' v s)
      deep := by
    apply (deliver_returns serves shallow called after (isOpen.enter admits)).ensure
    intro x
    apply Returns.of_some
    intro g' run
    exact (leave_returns shallow serves admits).weaken fun _ s hs => ⟨g', run, hs⟩
  have entered : Returns (OnDuty σ g v)
      (Isolate.within ((ofPrograms F).foreign limit) fun _ =>
        Dispatch.deliver ((ofPrograms F).foreign limit) k args)
      (fun r s => ∃ x, r = some x ∧
        ∃ g', F.Runs (.op (.dispatch k args)) g (.ok x) g' ∧ OnDuty σ g' v s) deep := by
    apply (enter_returns shallow serves isOpen).bind
    intro r
    apply Returns.of_some
    rintro e rfl
    apply Returns.of_and
    intro admits
    apply (within admits).bind
    exact fun x => Returns.pure fun s hs => ⟨x, rfl, hs⟩
  have dispatched : Returns (OnDuty σ g v)
      (Dispatch.dispatch ((ofPrograms F).foreign limit) k args)
      (fun x s => ∃ g', F.Runs (.op (.dispatch k args)) g (.ok x) g' ∧ OnDuty σ g' v s)
      deep := by
    change Returns _ (Exec.gets (fun s => decide (s.bridge.phase = .running)) >>= _) _ _
    apply OnDuty.ask (fun w => decide (w.phase = .running)) fun _ => rfl
    rw [if_pos (decide_eq_true isOpen.phase)]
    apply entered.bind
    intro r
    apply Returns.of_some
    rintro x rfl
    exact Returns.pure fun s hs => hs
  apply dispatched.attempt.weaken
  rintro r s ⟨x, rfl, hs⟩
  exact hs

end

/-! ### Runs and rules -/

theorem afterward_within (serves : F.ServesEvents σ) (k : EventKind) :
    (F.afterward k).Within (.events σ) := by
  unfold Foreign.afterward
  split
  · exact serves.drain
  · exact .pure _

/-- However deep foreign code may nest, a program comes to an end that the rules have, or nests too
deep. -/
theorem exec_abides (serves : F.ServesEvents σ) {a : Act P α} (ha : a.Within (.events σ))
    (isOpen : v.IsOpen) : Abides F σ True limit a g v := by
  -- handlers and microtasks have one level less, whatever they are; parts of a program as many
  induction limit generalizing α g v with
  | zero => exact fun _ _ => .inl ⟨trivial, rfl⟩
  | succ limit inner =>
    induction ha generalizing g with
    | pure a => exact Returns.pure fun s hs => ⟨g, .pure a g, hs⟩
    | bind hx hf ihx ihf => exact bind_abides ihx fun b _ _ => ihf b
    | attempt hx ih => exact attempt_abides ih
    | panic _ m => exact Returns.pure fun s hs => ⟨g, .panic m g, hs⟩
    | note _ n => exact note_abides n
    | world tells => exact world_abides tells
    | clear never => exact never.elim
    | @op β o eventful =>
      have called {k : EventKind} {args : Args k.params} (w : Station P) (isOpen : w.IsOpen) :
          Abides F σ True (limit + 1) (.op (.callHandler k args)) g w :=
        callHandler_abides fun h _ => inner (serves.handler h k args) isOpen
      cases o with
      | setHandler k handler => exact register_abides k handler
      | callHandler k args => exact called v isOpen
      | dispatch k args =>
        apply dispatch_abides serves (.inl trivial) called _ isOpen
        exact fun _ _ _ w isOpen => inner (afterward_within serves k) isOpen
      | _ => cases eventful

/-- A program comes to an end that the rules have, if foreign code may nest deep enough. -/
def Settles (F : Foreign P (Act P)) (σ : Sight P) (a : Act P α) (g : Registry P) : Prop :=
  ∃ enough, ∀ limit, enough < limit → ∀ v : Station P, v.IsOpen → Abides F σ False limit a g v

theorem Settles.of_next {a : Act P α} (enough : Nat) (h : ∀ limit, enough ≤ limit →
    ∀ v : Station P, v.IsOpen → Abides F σ False (limit + 1) a g v) : Settles F σ a g := by
  refine ⟨enough, fun limit above => ?_⟩
  cases limit with
  | zero => exact (Nat.not_lt_zero _ above).elim
  | succ limit => exact h limit (Nat.le_of_lt_succ above)

/-- What comes to an end at once. -/
theorem Settles.of_any {a : Act P α} (h : ∀ limit v, Abides F σ False (limit + 1) a g v) :
    Settles F σ a g :=
  .of_next 0 fun limit _ v _ => h limit v

theorem dispatch_settles (serves : F.ServesEvents σ) {k : EventKind} {args : Args k.params}
    {x : Except String k.Output} {g₁ : Registry P}
    (call : F.Runs (.op (.callHandler k args)) g x g₁)
    (called : Settles F σ (.op (.callHandler k args)) g)
    (after : Settles F σ (F.afterward k) (g₁.turn k)) :
    Settles F σ (.op (.dispatch k args)) g := by
  obtain ⟨n, called⟩ := called
  obtain ⟨m, after⟩ := after
  -- the microtasks nest one level deeper than the event
  apply Settles.of_next (n + m + 1)
  intro limit above v isOpen
  apply dispatch_abides serves (.inr (by omega)) (called (limit + 1) (by omega)) _ isOpen
  intro x' g' call' w isOpen
  obtain ⟨-, rfl⟩ := call.unique call'
  exact after limit (by omega) w isOpen

/-- What the rules bring to an end settles. -/
theorem runs_settles (serves : F.ServesEvents σ) {a : Act P α} {r : Except String α}
    {g' : Registry P} (run : F.Runs a g r g') (ha : a.Within (.events σ)) :
    Settles F σ a g := by
  induction run with
  | pure a g => exact .of_any fun _ _ => Returns.pure fun s hs => ⟨g, .pure a g, hs⟩
  | panic m g => exact .of_any fun _ _ => Returns.pure fun s hs => ⟨g, .panic m g, hs⟩
  | note n g => exact .of_any fun _ _ => note_abides n
  | register k handler g => exact .of_any fun _ _ => register_abides k handler
  | world f g =>
    cases ha with
    | world tells => exact .of_any fun _ _ => world_abides tells
  | attempt hx ih =>
    obtain ⟨n, ih⟩ := ih ha.attempts
    apply Settles.of_next n
    intro limit above v isOpen
    exact attempt_abides (ih _ (Nat.lt_succ_of_le above) v isOpen)
  | bind runx runf ihx ihf =>
    cases ha with
    | clear never => exact never.elim
    | bind hx hf =>
      obtain ⟨n, ihx⟩ := ihx hx
      obtain ⟨m, ihf⟩ := ihf (hf _)
      apply Settles.of_next (n + m)
      intro limit above v isOpen
      apply bind_abides (ihx _ (by omega) v isOpen)
      intro b' g₁ runx'
      obtain ⟨same, rfl⟩ := runx.unique runx'
      cases same
      exact ihf _ (by omega) v isOpen
  | unwind runx ihx =>
    cases ha with
    | clear never => exact never.elim
    | bind hx hf =>
      obtain ⟨n, ihx⟩ := ihx hx
      apply Settles.of_next n
      intro limit above v isOpen
      apply bind_abides (ihx _ (Nat.lt_succ_of_le above) v isOpen)
      intro b' g₁ runx'
      cases (runx.unique runx').1
  | absent none =>
    apply Settles.of_any
    intro limit v
    apply callHandler_abides
    intro h some
    rw [none] at some
    cases some
  | present some run ih =>
    obtain ⟨n, ih⟩ := ih (serves.handler _ _ _)
    apply Settles.of_next (n + 1)
    intro limit above v isOpen
    apply callHandler_abides
    intro h' some'
    rw [some] at some'
    cases some'
    exact ih _ (by omega) v isOpen
  | delivered call after ihcall ih =>
    exact dispatch_settles serves call (ihcall (.op rfl)) (ih (afterward_within serves _))
  | panicked call after ihcall ih =>
    exact dispatch_settles serves call (ihcall (.op rfl)) (ih (afterward_within serves _))

/-- In the state that a program runs to, the registry shows, and the thread is where it was. -/
def ComesTo (F : Foreign P (Act P)) (σ : Sight P) (limit : Nat) (a : Act P α) (s : State P)
    (r : Except String α) (g : Registry P) : Prop :=
  ∃ t, (ofPrograms F).exec limit a s = (.ofResult r, t) ∧ g.Shows σ t ∧ t.station = s.station

/-- Programs that register handlers and have events delivered come to what the rules say, and to
nothing else, unless foreign code nests too deep; and if the rules have an end for a program, it
does not, where it may nest deep enough. -/
theorem events_by_rules (serves : F.ServesEvents σ) {a : Act P α} (ha : a.Within (.events σ))
    {s : State P} (isOpen : s.station.IsOpen) (shows : g.Shows σ s) :
    (∀ limit, ((ofPrograms F).exec limit a).NestsTooDeep s ∨
      ∃ r g', F.Runs a g r g' ∧ ComesTo F σ limit a s r g') ∧
    ∀ r g', F.Runs a g r g' →
      ∃ enough, ∀ limit, enough < limit → ComesTo F σ limit a s r g' := by
  have onDuty := OnDuty.self shows
  constructor
  · intro limit
    rcases exec_abides serves ha isOpen s onDuty with ⟨-, nests⟩ | ⟨r, t, ran, g', run, ht⟩
    · exact .inl nests.of_attempt
    · exact .inr ⟨r, g', run, t, of_attempt_value ran, ht⟩
  · intro r g' run
    obtain ⟨enough, settles⟩ := runs_settles serves run ha
    refine ⟨enough, fun limit above => ?_⟩
    rcases settles limit above _ isOpen s onDuty with ⟨never, -⟩ | ⟨r', t, ran, g'', run', ht⟩
    · exact never.elim
    · obtain ⟨rfl, rfl⟩ := run.unique run'
      exact ⟨t, of_attempt_value ran, ht⟩

end System

/-! ### The plain world -/

namespace Plain

/-- A handler that takes itself away, has its event delivered once more, and panics. -/
def fickle (_ : Unit) (k : EventKind) (args : Args k.params) : Act platform k.Output :=
  (Act.op (.setHandler k none)).bind fun _ =>
    (Act.op (.dispatch k args)).bind fun _ => .panic "late"

/-- The handler is registered, and its event delivered. -/
def handled (k : EventKind) (args : Args k.params) : Act platform k.Output :=
  (Act.op (.setHandler k (some ()))).bind fun _ => .op (.dispatch k args)

theorem fickle_servesEvents : (handling fickle).ServesEvents sight where
  handler _ _ _ := .bind (.op rfl) fun _ => .bind (.op rfl) fun _ => .panic trivial _
  drain := .pure _
  calm g m g' run := by cases run.results.1
  enterIsolate _ := .pure _
  enters limit i s r _ ran := by
    cases limit with
    | zero => cases ran
    | succ limit =>
      cases ran
      rfl
  exitIsolate := .pure _
  enterScope := .pure _
  exitScope := .pure _

end Plain

namespace System

/-- The event is delivered to the handler once, although it comes again while the handler runs, and
gets the default of its kind. The registration that the handler made stays. -/
theorem events_by_rules_plain :
    let F := Plain.handling Plain.fickle
    let k := EventKind.blockBreak
    let args : Args k.params := ((1 : Int32), (2 : Int32), (3 : Int32), (7 : Int64), ())
    ∃ image,
      (ofPrograms F).exec 2 Plain.launching Plain.start = (.value (), Plain.running image) ∧
      ComesTo F Plain.sight 4 (Plain.handled k args) (Plain.running image) (.ok (1 : Int32))
        { log := .registered k none :: .called k () args :: .registered k (some ()) ::
            (Plain.running image).registry.log
          sides := ((), .object none) } := by
  intro F k args
  obtain ⟨image, launched⟩ := Plain.handling_runs Plain.fickle
  refine ⟨image, launched, ?_⟩
  obtain ⟨ends, -⟩ := events_by_rules (a := Plain.handled k args) (s := Plain.running image)
    Plain.fickle_servesEvents (.bind (.op rfl) fun _ => .op rfl) ⟨rfl, ⟨_, rfl⟩, .inl rfl⟩
    (State.registry_shows rfl)
  have waits (g) : F.Runs (F.afterward k) (Registry.turn g k) (.ok (.ok ())) g := .pure _ g
  have again (g) (none : Registry.handler g k = none) :
      F.Runs (.op (.dispatch k args)) g (.ok k.default) g := .delivered (.absent none) (waits g)
  have call (g) : F.Runs (F.handler () k args) g (.error "late") (g.add (.registered k none)) :=
    .bind (.register k none g) (.bind (again _ rfl) (.panic "late" _))
  have event (g) (some : Registry.handler g k = some ()) : F.Runs (.op (.dispatch k args)) g
      (.ok k.default) ((g.add (.called k () args)).add (.registered k none)) :=
    .panicked (.present some (call _)) (waits _)
  have registered (g) : F.Runs (.op (.setHandler k (some ()))) g (.ok ())
      (g.add (.registered k (some ()))) := .register k _ g
  have run : F.Runs (Plain.handled k args) (Plain.running image).registry (.ok k.default) _ :=
    (registered (Plain.running image).registry).bind (event (.add _ _) rfl)
  rcases ends 4 with nests | ⟨r, g', run', came⟩
  · cases nests
  · obtain ⟨rfl, rfl⟩ := run.unique run'
    exact came

end System
end HostBridge
