import HostBridge.Proofs.Programs
import HostBridge.Proofs.TandemSession

/-!
Programs in tandem. A relation that all foreign code respects is respected by every call of the
interface, hence by every program whose uses of its own memory respect it, and so by the executions
of a system however deep its foreign code nests.
-/
namespace HostBridge

open Exec

variable {P : Platform} {α : Type}

namespace ForeignSteady

variable {F : Foreign P (Exec P)} {typeKnown : String → P.Class → Prop}
  {memberKnown : P.World → MemberKey → P.Member → Prop} {R : State P → State P → Prop}
  (steady : ForeignSteady F typeKnown memberKnown R)
include steady

/-! ### Chat -/

theorem callBack (player : Int64) (text : String) : InStep R (Chat.callBack F player text) := by
  unfold Chat.callBack
  split
  · exact steady.report _
  · apply (steady.placeText text).bind
    intro address
    have called := steady.about_inStep (.callMethod .static Chat.callbackKey.className
      Chat.callbackKey.name Chat.callbackKey.signature .void
      [.ofInt64 player, .ofPointer address]) rfl
    exact called.discard.ensure (steady.setMemory (·.free address))

theorem send (player : Int64) (text : String) : InStep R (Chat.send F player text) := by
  unfold Chat.send
  apply steady.asksBridge.bind
  intro sink
  cases sink with
  | none => exact (steady.report _).bind fun _ => InStep.pure
  | some sink =>
    cases sink with
    | callback => exact (steady.callBack player text).bind fun _ => InStep.pure
    | custom sink =>
      have called : InStep R (F.callSink sink player text) :=
        (steady.log _).bind fun _ => steady.sink sink player text
      exact called.bind fun _ => InStep.pure

theorem setSink (sink : Option (ChatSink P.Sink)) : InStep R (Chat.setSink (P := P) sink) :=
  steady.update fun _ => .chatSink sink

theorem installCallback : InStep R (Chat.installCallback F) := by
  unfold Chat.installCallback
  apply (steady.preload_inStep Chat.callbackKey).bind
  intro preloaded
  cases preloaded with
  | error e => exact (steady.report _).bind fun _ => InStep.pure
  | ok _ => exact (steady.setSink _).bind fun _ => InStep.pure

/-! ### The interface -/

theorem exchangeEnvironment (environment : Config.Environment) :
    InStep R (Op.exchangeEnvironment (P := P) environment) := by
  unfold Op.exchangeEnvironment
  apply (steady.asks fun _ _ _ _ => rfl).bind
  intro before
  exact (InStep.change fun _ _ => steady.environment environment).bind fun _ => InStep.pure

theorem serviceUrl : InStep R (Lifecycle.serviceUrl (P := P)) := by
  unfold Lifecycle.serviceUrl
  apply steady.isRunning.bind
  intro running
  split
  · exact steady.asksBridge
  · exact InStep.pure

/-- Every call of the interface. -/
theorem op_inStep (o : Op P α) : InStep R (o.run F) := by
  by_cases plain : o.isPlain = true
  · exact steady.plain_inStep o plain
  by_cases about : o.key?.isSome = true
  · exact steady.about_inStep o about
  cases o with
  | launch path => exact steady.launch path
  | launchWith path config => exact steady.launchWith path config
  | shutdown => exact steady.shutdown
  | tick => exact steady.tick
  | phase => exact steady.asksBridge
  | serviceUrl => exact steady.serviceUrl
  | setEnvironment environment => exact steady.exchangeEnvironment environment
  | dispatch k args => exact steady.dispatch k args
  | callHandler k args => exact steady.callHandler k args
  | setHandler k handler => exact steady.update fun s => .handlers (s.bridge.handlers.set k handler)
  | clearHandlers => exact steady.update fun _ => .handlers _
  | handlers => exact steady.asksBridge
  | setSink sink => exact steady.setSink _
  | installCallback => exact steady.installCallback
  | hasSink => exact steady.asksBridge
  | sendChat player text => exact steady.send player text
  | clearMembers => exact steady.clearMembers
  | memberCounts => exact steady.asksBridge
  | depth => exact steady.asksBridge
  | isInside => exact steady.asks fun _ _ _ _ => rfl
  | copyHandle _ | release _ | releaseAll | handleCount => exact absurd rfl plain
  | place _ | readBuffer _ | free _ | report _ => exact absurd rfl plain
  | _ => exact absurd rfl about

end ForeignSteady

/-! ### Programs -/

namespace Act

/-- Every use that a program makes of its own memory is of a sort. -/
def UsesWorld (ok : {β : Type} → (P.World → β × P.World) → Prop) : {α : Type} → Act P α → Prop
  | _, .bind x f => x.UsesWorld ok ∧ ∀ b, (f b).UsesWorld ok
  | _, .attempt x => x.UsesWorld ok
  | _, .world f => ok f
  | _, _ => True

/-- Nothing is said of uses of all sorts. -/
theorem usesWorld_true (a : Act P α) : a.UsesWorld fun _ => True := by
  induction a with
  | bind x f ihx ihf => exact ⟨ihx, ihf⟩
  | attempt x ih => exact ih
  | _ => trivial

end Act

/-- A use of the memory of foreign code that gives the same to related states and leaves them
related. -/
def Exec.UseInStep (R : State P → State P → Prop) (f : P.World → α × P.World) : Prop :=
  ∀ s t, R s t → (f s.world).1 = (f t.world).1 ∧
    R { s with world := (f s.world).2 } { t with world := (f t.world).2 }

/-- Every program whose uses of its own memory are in step. -/
theorem ForeignSteady.act_inStep {F : Foreign P (Exec P)} {typeKnown : String → P.Class → Prop}
    {memberKnown : P.World → MemberKey → P.Member → Prop} {R : State P → State P → Prop}
    (steady : ForeignSteady F typeKnown memberKnown R)
    {ok : {β : Type} → (P.World → β × P.World) → Prop}
    (respects : ∀ {β : Type} (f : P.World → β × P.World), ok f → UseInStep R f) (a : Act P α)
    (uses : a.UsesWorld ok) : InStep R (a.run F) := by
  induction a with
  | pure a => exact InStep.pure
  | bind x f ihx ihf => exact (ihx uses.1).bind fun b => ihf b (uses.2 b)
  | panic message => exact Tandem.panic
  | attempt x ih => exact (ih uses).attempt
  | note n => exact steady.log (.note n)
  | world f =>
    intro s t related
    obtain ⟨same, after⟩ := respects f uses s t related
    exact ⟨congrArg Outcome.value same, after⟩
  | op o => exact steady.op_inStep o
  | extra o => exact steady.extra o

namespace System

/-- Every execution, if the foreign code at each depth respects the relation whenever the executions
at that depth do. -/
theorem exec_inStep {S : System P} {R : State P → State P → Prop}
    {typeKnown : String → P.Class → Prop}
    {memberKnown : P.World → MemberKey → P.Member → Prop}
    {ok : {β : Type} → (P.World → β × P.World) → Prop}
    (respects : ∀ {β : Type} (f : P.World → β × P.World), ok f → UseInStep R f)
    (steady : ∀ limit, (∀ {β : Type} (b : Act P β), b.UsesWorld ok → InStep R (S.exec limit b)) →
      ForeignSteady (S.foreign limit) typeKnown memberKnown R)
    (limit : Nat) (a : Act P α) (uses : a.UsesWorld ok) : InStep R (S.exec limit a) := by
  induction limit generalizing α with
  | zero => exact Tandem.halt
  | succ limit ih => exact (steady limit fun b uses => ih b uses).act_inStep respects a uses

/-- The foreign code at each depth respects the relation. -/
theorem foreign_steady {S : System P} {R : State P → State P → Prop}
    {typeKnown : String → P.Class → Prop}
    {memberKnown : P.World → MemberKey → P.Member → Prop}
    {ok : {β : Type} → (P.World → β × P.World) → Prop}
    (respects : ∀ {β : Type} (f : P.World → β × P.World), ok f → UseInStep R f)
    (steady : ∀ limit, (∀ {β : Type} (b : Act P β), b.UsesWorld ok → InStep R (S.exec limit b)) →
      ForeignSteady (S.foreign limit) typeKnown memberKnown R) (limit : Nat) :
    ForeignSteady (S.foreign limit) typeKnown memberKnown R :=
  steady limit fun b uses => exec_inStep respects steady limit b uses

/-- Where all foreign code is given as programs and nothing has to be known of types and members, it
is enough that the relation respects what the bridge does and the uses of memory. -/
theorem ofPrograms_steady {F : Foreign P (Act P)} {R : State P → State P → Prop}
    (steady : ∀ limit,
      Steady ((ofPrograms F).foreign limit) (fun _ _ => True) (fun _ _ _ => True) R)
    (respects : ∀ {β : Type} (f : P.World → β × P.World), UseInStep R f) (limit : Nat) :
    ForeignSteady ((ofPrograms F).foreign limit) (fun _ _ => True) (fun _ _ _ => True) R := by
  have contract (limit : Nat)
      (ran : ∀ {β : Type} (b : Act P β), (b.UsesWorld fun _ => True) →
        InStep R ((ofPrograms F).exec limit b)) :
      ForeignSteady ((ofPrograms F).foreign limit) (fun _ _ => True) (fun _ _ _ => True) R := by
    have all {β : Type} (b : Act P β) : InStep R ((ofPrograms F).exec limit b) :=
      ran b b.usesWorld_true
    exact {
      toSteady := steady limit
      resolveType := fun name => (all (F.host.resolveType name)).weaken
        fun _ _ _ related => ⟨fun _ _ => trivial, related⟩
      resolveMember := fun c key _ => (all (F.host.resolveMember c key)).weaken
        fun _ _ _ related => ⟨fun _ _ => trivial, related⟩
      construct := fun c m args => all (F.host.construct c m args)
      invoke := fun receiver m kind args => all (F.host.invoke receiver m kind args)
      readField := fun receiver m kind => all (F.host.readField receiver m kind)
      writeField := fun receiver m v => all (F.host.writeField receiver m v)
      start := fun config => all (F.vm.start config)
      loadImage := fun image => all (F.vm.loadImage image)
      enterIsolate := fun i => all (F.vm.enterIsolate i)
      exitIsolate := all F.vm.exitIsolate
      enterScope := all F.vm.enterScope
      exitScope := all F.vm.exitScope
      entryPoint := fun name => all (F.vm.entryPoint name)
      drain := all F.vm.drain
      shutdownIsolate := fun i => all (F.vm.shutdownIsolate i)
      stop := all F.vm.stop
      handler := fun h k args => all (F.handler h k args)
      sink := fun sink player text => all (F.sink sink player text)
      extra := fun o => all (F.extra o) }
  exact foreign_steady (fun f _ => respects f) contract limit

end System
end HostBridge
