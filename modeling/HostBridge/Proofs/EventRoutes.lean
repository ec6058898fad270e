import HostBridge.Export.JavaEvents
import HostBridge.Proofs.FixedLifecycle

/-!
The routes of an event. It is delivered through the core, through the functions in terms of C or
through those in terms of the Java VM, and the arguments and the result cross each of them. All
routes come to the same, and on all of them the handler that stands for the kind is called once.
-/
namespace HostBridge

open Exec

variable {P : Platform} {α β : Type}

/-! ### Arguments and results -/

/-- The values of a type as the Java VM has them and as the core has them: numbers and bit patterns
are the same, and a byte is true unless it is zero. -/
def Scalar.Carries : (t : Scalar) → t.JavaCarrier → t.Carrier → Prop
  | .int, n, m => n = m
  | .long, n, m => n = m
  | .float, n, m => n = m
  | .double, n, m => n = m
  | .boolean, (y : UInt8), (b : Bool) => b = true ↔ y ≠ 0

/-- Arguments as the Java VM passes them, and as the core takes them, each in its place. -/
inductive JavaArgs.Carries : {ts : List Scalar} → JavaArgs ts → Args ts → Prop
  | nil : @Carries [] () ()
  | cons {t : Scalar} {ts : List Scalar} {y : t.JavaCarrier} {x : t.Carrier} {ys : JavaArgs ts}
      {xs : Args ts} (first : t.Carries y x) (rest : Carries ys xs) :
      @Carries (t :: ts) (y, ys) (x, xs)

/-- The results of a type as the core gives them and as the Java VM takes them: numbers are the
same, and a boolean is one or zero. -/
def Reply.Carries : (r : Reply) → r.Carrier → r.JavaCarrier → Prop
  | .unit, _, _ => True
  | .int _, n, m => m = n
  | .boolean _, (b : Bool), (y : UInt8) => b = true ∧ y = 1 ∨ b = false ∧ y = 0

theorem Scalar.carries_iff (t : Scalar) (y : t.JavaCarrier) (x : t.Carrier) :
    t.Carries y x ↔ t.ofJava y = x := by
  cases t with
  | int | long | float | double => exact Iff.rfl
  | boolean =>
    have read (n : UInt8) (b : Bool) : (b = true ↔ n ≠ 0) ↔ (n != 0) = b := by
      cases b <;> simp
    exact read y x

/-- To what the Java VM passes belong just the arguments that are read from it. -/
theorem JavaArgs.carries_iff {ts : List Scalar} (raw : JavaArgs ts) (args : Args ts) :
    raw.Carries args ↔ raw.toArgs = args := by
  induction ts with
  | nil =>
    refine ⟨fun _ => rfl, fun _ => ?_⟩
    cases raw
    cases args
    exact .nil
  | cons t ts ih =>
    obtain ⟨y, ys⟩ := raw
    obtain ⟨x, xs⟩ := args
    constructor
    · intro carried
      cases carried with
      | cons first rest =>
        exact Prod.ext ((t.carries_iff y x).mp first) ((ih ys xs).mp rest)
    · intro read
      obtain ⟨first, rest⟩ := Prod.mk.inj read
      exact .cons ((t.carries_iff y x).mpr first) ((ih ys xs).mpr rest)

theorem Reply.carries_toJava (r : Reply) (x : r.Carrier) : r.Carries x (r.toJava x) := by
  cases r with
  | unit => trivial
  | int n => exact rfl
  | boolean b =>
    cases (x : Bool) with
    | true => exact .inl ⟨rfl, rfl⟩
    | false => exact .inr ⟨rfl, rfl⟩

/-- Two runs come to the same, with a result of the core in one and of the Java VM in the other. -/
def EventKind.SameOutcome (k : EventKind) :
    Outcome k.Output × State P → Outcome k.JavaOutput × State P → Prop
  | (.value x, s), (.value y, t) => k.info.default.Carries x y ∧ s = t
  | (.panic m, s), (.panic n, t) => m = n ∧ s = t
  | (.halt v, s), (.halt w, t) => v = w ∧ s = t
  | _, _ => False

theorem EventKind.sameOutcome_toJava (k : EventKind) (x : Exec P k.Output) (s : State P) :
    k.SameOutcome (x s) ((x >>= fun a => pure (k.toJava a)) s) := by
  rw [run_bind]
  rcases x s with ⟨a | m | w, t⟩
  · exact ⟨k.info.default.carries_toJava a, rfl⟩
  · exact ⟨rfl, rfl⟩
  · exact ⟨rfl, rfl⟩

/-- What gives a result on one route gives the corresponding one on the other. -/
theorem EventKind.SameOutcome.of_value {k : EventKind} {x : k.Output} {s : State P}
    {r : Outcome k.JavaOutput × State P} (same : k.SameOutcome (.value x, s) r) :
    ∃ y, k.info.default.Carries x y ∧ r = (.value y, s) := by
  rcases r with ⟨y | m | w, t⟩
  · exact ⟨y, same.1, congrArg _ same.2.symm⟩
  · exact same.elim
  · exact same.elim

/-! ### The parts of a delivery -/

namespace Exec

theorem attempt_bind_eq (x : Exec P β) (f : β → Exec P α) :
    (x >>= f).attempt = x.attempt >>= fun r => match r with
      | .ok b => (f b).attempt
      | .error m => pure (.error m) := by
  funext s
  rcases ran : x s with ⟨b | m | w, t⟩ <;> simp [attempt, run_bind, ran]

/-- What is to be done after a computation is to be done after its last part, or as soon as a part
before panics. -/
theorem bind_ensure (x : Exec P β) (f : β → Exec P α) (after : Exec P Unit) :
    (x >>= f).ensure after = x.onPanic after >>= fun b => (f b).ensure after := by
  unfold ensure onPanic
  rw [attempt_bind_eq, bind_assoc, bind_assoc]
  congr 1
  funext r
  cases r with
  | ok b => rw [pure_bind]
  | error m =>
    rw [pure_bind, bind_assoc]
    rfl

theorem attempt_onPanic (x : Exec P α) (after : Exec P Unit) :
    x.attempt.onPanic after = x.attempt := by
  funext s
  rcases ran : x s with ⟨b | m | w, t⟩ <;> simp [onPanic, attempt, run_bind, ran]

end Exec

namespace Dispatch

variable (F : Foreign P (Exec P)) (k : EventKind)

/-- Everything before the handler: the entry that was made, if any, and the handler of the kind that
stands at that moment. -/
def arrive : Exec P (Option (Entry × Option P.Handler)) := do
  if ← Lifecycle.isRunning then
    match ← Isolate.enter F with
    | none => return none
    | some e => do
      F.vm.callEnterScope.onPanic (Isolate.leave F e)
      return some (e, (← Exec.bridge (·.handlers)) k)
  else return none

/-- Everything after the handler, by what came of it. -/
def depart (e : Entry) (r : Except String k.Output) : Exec P k.Output := Exec.ensure
  (do
    if k.drainsMicrotasks then Isolate.drain F
    F.vm.callExitScope
    match r with
    | .ok x => return x
    | .error _ => do
      Exec.report (.handlerPanicked k)
      return k.default)
  (Isolate.leave F e)

/-- A delivery in parts: the handler that stands is called once, and no handler has a part in what
comes before and after. -/
def deliverBy (handle : P.Handler → Exec P k.Output) : Exec P k.Output := do
  match ← arrive F k with
  | none => return k.default
  | some (e, none) => depart F k e (.ok k.default)
  | some (e, some h) => do
    let r ← (handle h).attempt
    depart F k e r

variable (args : Args k.params)

/-- The handler that stands is called, or the answer is the default. -/
theorem callHandler_bind (f : Except String k.Output → Exec P α) :
    (callHandler F k args).attempt >>= f = (do
      match (← Exec.bridge (·.handlers)) k with
      | none => f (.ok k.default)
      | some h => do
        let r ← (F.callHandler h k args).attempt
        f r) := by
  funext s
  have asked (g : Handlers P.Handler → Exec P k.Output) :
      (Exec.bridge (·.handlers) >>= g).attempt s = (g s.bridge.handlers).attempt s := rfl
  unfold callHandler
  rw [run_bind, asked, run_bind]
  cases handled : s.bridge.handlers k with
  | none => simp [Exec.bridge, handled, attempt]
  | some h => simp [Exec.bridge, handled, run_bind]

theorem deliver_ensure (e : Entry) :
    (deliver F k args).ensure (Isolate.leave F e) = (do
      F.vm.callEnterScope.onPanic (Isolate.leave F e)
      match (← Exec.bridge (·.handlers)) k with
      | none => depart F k e (.ok k.default)
      | some h => do
        let r ← (F.callHandler h k args).attempt
        depart F k e r) := by
  unfold deliver Isolate.inScope
  simp only [bind_assoc, pure_bind]
  rw [bind_ensure]
  congr 1
  funext _
  rw [bind_ensure, attempt_onPanic, ← callHandler_bind]
  congr 1
  funext r
  unfold depart
  congr 1
  cases r <;> split <;> simp

theorem dispatch_eq : dispatch F k args = deliverBy F k fun h => F.callHandler h k args := by
  unfold dispatch deliverBy arrive Isolate.within
  simp only [bind_assoc]
  congr 1
  funext running
  cases running with
  | false => rfl
  | true =>
    rw [if_pos rfl, if_pos rfl]
    simp only [bind_assoc]
    congr 1
    funext r
    cases r with
    | none => rfl
    | some e =>
      simp only [deliver_ensure, bind_assoc, pure_bind]
      congr 1
      funext _
      congr 1
      funext handlers
      cases handlers k with
      | none => simp
      | some h => simp

end Dispatch

/-! ### The routes -/

namespace Export

variable (F : Foreign P (Exec P)) (k : EventKind)

/-- Through the Java VM an event with corresponding arguments comes to the same, also after other
things that were done alike. -/
theorem javaDispatch_same {raw : JavaArgs k.params} {args : Args k.params}
    (carried : raw.Carries args) (before : Act P Unit) (s : State P) :
    k.SameOutcome ((before.run F >>= fun _ => Dispatch.dispatch F k args) s)
      ((before.bind fun _ => javaDispatch k raw).run F s) := by
  have read : raw.toArgs = args := (raw.carries_iff args).mp carried
  have run : (before.bind fun _ => javaDispatch k raw).run F s =
      ((before.run F >>= fun _ => Dispatch.dispatch F k args) >>= fun x =>
        pure (k.toJava x)) s := by
    rw [← read, bind_assoc]
    rfl
  rw [run]
  exact k.sameOutcome_toJava _ s

/-- An event comes to the same on all routes, in every state and whatever the handlers do: to a
delivery that calls the handler that stands once, with the arguments of the event. Registering puts
a handler, or none, in the place of the kind and changes nothing else, and after it all routes come
to the same again. -/
theorem routes_agree {raw : JavaArgs k.params} {args : Args k.params} (carried : raw.Carries args)
    (X : P.Handler → (k : EventKind) → Args k.params → Exec P k.Output) :
    let G := F.withHandlers X
    let delivered := Dispatch.deliverBy F k fun h =>
      Exec.record (.handlerCall k h args) >>= fun _ => X h k args
    Dispatch.dispatch G k args = delivered ∧
    (dispatch k args).run G = delivered ∧
    (∀ s, k.SameOutcome (delivered s) ((javaDispatch k raw).run G s)) ∧
    ∀ handler : Option P.Handler,
      (∀ s, (register k handler).run G s = (.value (), { s with
        bridge := { s.bridge with handlers := fun j =>
          if j = k then handler else s.bridge.handlers j } })) ∧
      (register k handler).run G = Dispatch.setHandler k handler ∧
      ((register k handler).bind fun _ => dispatch k args).run G =
        (Dispatch.setHandler k handler >>= fun _ => delivered) ∧
      ∀ s, k.SameOutcome ((Dispatch.setHandler k handler >>= fun _ => delivered) s)
        (((register k handler).bind fun _ => javaDispatch k raw).run G s) := by
  intro G delivered
  have core : Dispatch.dispatch G k args = delivered := Dispatch.dispatch_eq G k args
  have same (before : Act P Unit) (s : State P) :
      k.SameOutcome ((before.run G >>= fun _ => delivered) s)
        ((before.bind fun _ => javaDispatch k raw).run G s) := by
    rw [← core]
    exact javaDispatch_same G k carried before s
  refine ⟨core, core, same (.pure ()), fun handler => ⟨fun s => rfl, rfl, ?_, fun s => ?_⟩⟩
  · rw [← core]
    rfl
  · exact same (register k handler) s

end Export

/-- A byte that is two is true: a handler that is registered for a kind with a boolean is called
with that. -/
theorem Export.routes_agree_plain : ∃ image,
    let F := ((System.ofPrograms Plain.idle).foreign 1).withHandlers fun _ k _ => pure k.default
    let raw : JavaArgs EventKind.playerRespawn.params := ((7 : Int32), (2 : UInt8), ())
    let args : Args EventKind.playerRespawn.params := ((7 : Int32), true, ())
    let respawn := (register .playerRespawn (some ())).bind fun _ => javaDispatch .playerRespawn raw
    raw.Carries args ∧ ∃ t : State Plain.platform,
      respawn.run F (Plain.running image) = (.value (), t) ∧
        .handlerCall .playerRespawn () args ∈ t.record := by
  obtain ⟨image, -⟩ := Plain.image_opens {}
  refine ⟨image, ?_⟩
  intro F raw args respawn
  have carried : raw.Carries args := (raw.carries_iff args).mpr rfl
  obtain ⟨-, -, -, registered⟩ := routes_agree ((System.ofPrograms Plain.idle).foreign 1)
    .playerRespawn carried fun _ k _ => pure k.default
  have same := (registered (some ())).2.2.2 (Plain.running image)
  obtain ⟨y, -, ran⟩ := EventKind.SameOutcome.of_value same
  exact ⟨carried, _, ran, List.mem_of_getElem? (i := 2) rfl⟩

end HostBridge
