import HostBridge.Proofs.HostContract
import HostBridge.Proofs.Permits

/-!
What programs keep. A family of invariants that withstands the calls made on the host, the session
and the calls of foreign code is kept by every call of the interface, hence by every program, and by
every execution of a system however deep its foreign code nests.
-/
namespace HostBridge

open Exec

variable {P : Platform} {α : Type}

/-! ### Dynamic operations -/

/-- A plain call of the interface keeps what the parts of an operation keep. -/
theorem Withstands.plain_keeps {F : Foreign P (Exec P)} {I H : State P → Prop}
    (W : Withstands F I H) (o : Op P α) (plain : o.isPlain = true) : Keeps I H (o.run F) := by
  cases o with
  | copyHandle h => exact (W.lookup h).bind W.store
  | release h => exact W.release h
  | releaseAll => exact W.releaseAll
  | handleCount => exact Triple.gets fun _ h => h
  | place bytes =>
    exact Keeps.gets.bind fun _ =>
      (Keeps.modify fun _ => W.memory _).bind fun _ => Keeps.pure
  | readBuffer address =>
    refine Keeps.gets.bind fun buffer => ?_
    cases buffer with
    | none => exact Keeps.halt W.halts
    | some bytes => exact Keeps.pure
  | free address => exact Keeps.modify fun _ => W.memory _
  | report d => exact W.sendReport d
  | _ => cases plain

/-- What is about a member keeps what its look-ups and its use keep. -/
theorem CallContract.about_keeps {F : Foreign P (Exec P)} {J : State P → Prop} {ι : Type}
    {I : ι → State P → Prop} {H : State P → Prop} (C : CallContract F J I H) (o : Op P α)
    (about : o.key?.isSome = true) : Keeps J H (o.run F) := by
  cases o with
  | createObject className signature words =>
    exact C.createObject_keeps className signature words
  | callMethod target className name signature requested words =>
    exact C.callMethod_keeps target className name signature requested words
  | getField target className name descriptor requested =>
    exact C.getField_keeps target className name descriptor requested
  | setField target className name descriptor requested w =>
    exact C.setField_keeps target className name descriptor requested w
  | preload key => exact C.preload_keeps key
  | _ => cases about

theorem HostContract.about_keeps {F : Foreign P (Exec P)} {ι : Type} {I : ι → State P → Prop}
    {H : State P → Prop} (C : HostContract F I H) (i : ι) (o : Op P α)
    (about : o.key?.isSome = true) : Keeps (I i) H (o.run F) :=
  (C.calls i).about_keeps o about

/-- A dynamic operation keeps what the calls on the host keep. -/
theorem HostContract.dynamic_keeps {F : Foreign P (Exec P)} {ι : Type} {I : ι → State P → Prop}
    {H : State P → Prop} (C : HostContract F I H) (i : ι) (o : Op P α)
    (dynamic : o.isDynamic = true) : Keeps (I i) H (o.run F) := by
  rcases Bool.or_eq_true_iff.mp dynamic with plain | about
  · exact (C.withstands i).plain_keeps o plain
  · exact C.about_keeps i o about

/-! ### Contracts -/

/-- The foreign code of a system at a depth of nesting. -/
def System.foreign (S : System P) (limit : Nat) : Foreign P (Exec P) := S (fun b => S.exec limit b)

/-- Whether a happening is one of programs alone. -/
def Happening.isOwn : Happening P → Bool
  | note _ | handlerCall .. | sinkCall .. => true
  | _ => false

/-- An invariant that what programs set and put on record has no part in. -/
structure ProgramBlind (I : State P → Prop) : Prop where
  set : ∀ {s} (r : Handlers P.Handler) (c : Option (ChatSink P.Sink)) (e : Config.Environment)
    (w : P.World), I s →
    I { s with
      bridge := { s.bridge with handlers := r, chatSink := c }, environment := e, world := w }
  record : ∀ {s} (e : Happening P), e.isOwn = true → I s → I { s with record := e :: s.record }

/-- A family of invariants that is kept by what a program may ask of a session but for its end. The
operations stand here as they are, since what they keep differs most from one family to another. -/
structure UseKept (F : Foreign P (Exec P)) {ι : Type} (I : ι → State P → Prop)
    (H : State P → Prop) : Prop where
  launch : ∀ i path, Keeps (I i) H (Lifecycle.launch F path)
  launchWith : ∀ i path config, Keeps (I i) H (Lifecycle.launchWith F path config)
  tick : ∀ i, Keeps (I i) H (Lifecycle.tick F)
  dispatch : ∀ i k args, Keeps (I i) H (Dispatch.dispatch F k args)

/-- A family of invariants that is kept by what a program may ask of a session. -/
structure SessionKept (F : Foreign P (Exec P)) {ι : Type} (I : ι → State P → Prop)
    (H : State P → Prop) : Prop extends UseKept F I H where
  shutdown : ∀ i, Keeps (I i) H (Lifecycle.shutdown F)

/-- A family of invariants that withstands what a program may ask for, but for a shutdown and a
clear of the cache. -/
structure UseContract (F : Foreign P (Exec P)) {ι : Type} (I : ι → State P → Prop)
    (H : State P → Prop) extends HostContract F I H, UseKept F I H where
  blind : ∀ i, ProgramBlind (I i)
  handler : ∀ i h k args, Keeps (I i) H (F.handler h k args)
  sink : ∀ i s player text, Keeps (I i) H (F.sink s player text)
  extra : ∀ i {β : Type} (o : P.Extra β), Keeps (I i) H (F.extra o)

/-- A family of invariants that withstands all that a program may ask for. -/
structure ProgramContract (F : Foreign P (Exec P)) {ι : Type} (I : ι → State P → Prop)
    (H : State P → Prop) extends UseContract F I H, SessionKept F I H where
  clearMembers : ∀ i, Keeps (I i) H (Members.clear F)

/-- Where all foreign code is made of programs, it is enough that these keep the family. -/
def ProgramContract.ofPrograms {F : Foreign P (Act P)} {limit : Nat} {ι : Type}
    {I : ι → State P → Prop} {H : State P → Prop}
    (host : HostContract ((System.ofPrograms F).foreign limit) I H)
    (blind : ∀ i, ProgramBlind (I i))
    (session : SessionKept ((System.ofPrograms F).foreign limit) I H)
    (clearMembers : ∀ i, Keeps (I i) H (Members.clear ((System.ofPrograms F).foreign limit)))
    (run : ∀ {β : Type} (b : Act P β) i, Keeps (I i) H ((System.ofPrograms F).exec limit b)) :
    ProgramContract ((System.ofPrograms F).foreign limit) I H where
  toHostContract := host
  __ := session
  blind := blind
  handler i _ _ _ := run _ i
  sink i _ _ _ := run _ i
  extra i _ _ := run _ i
  clearMembers := clearMembers

/-! ### The interface -/

/-- An invariant in which the memory, the reports, the handlers and the sink have no part, and that
the operations on members and of the session keep. -/
structure InterfaceContract (F : Foreign P (Exec P)) (I H : State P → Prop) : Prop
    extends Detached I H where
  handlers : ∀ {s} (r : Handlers P.Handler), I s →
    I { s with bridge := { s.bridge with handlers := r } }
  chatSink : ∀ {s} (c : Option (ChatSink P.Sink)), I s →
    I { s with bridge := { s.bridge with chatSink := c } }
  environment : ∀ {s} (e : Config.Environment), I s → I { s with environment := e }
  handler : ∀ h k args, Keeps I H (F.callHandler h k args)
  sink : ∀ s player text, Keeps I H (F.callSink s player text)
  about : ∀ {β : Type} (o : Op P β), o.key?.isSome = true → Keeps I H (o.run F)
  launch : ∀ path, Keeps I H (Lifecycle.launch F path)
  launchWith : ∀ path config, Keeps I H (Lifecycle.launchWith F path config)
  tick : Keeps I H (Lifecycle.tick F)
  dispatch : ∀ k args, Keeps I H (Dispatch.dispatch F k args)

namespace InterfaceContract

variable {F : Foreign P (Exec P)} {I H : State P → Prop} (C : InterfaceContract F I H)
include C

theorem callBack_keeps (player : Int64) (text : String) :
    Keeps I H (Chat.callBack F player text) := by
  unfold Chat.callBack
  split
  · exact C.sendReport _
  · refine (C.placeText text).bind fun address => Keeps.ensure ?_ ?_
    · have called := C.about (.callMethod .static Chat.callbackKey.className Chat.callbackKey.name
        Chat.callbackKey.signature .void [.ofInt64 player, .ofPointer address]) rfl
      exact called.discard
    · exact Keeps.modify fun _ => C.memory _

theorem send_keeps (player : Int64) (text : String) : Keeps I H (Chat.send F player text) := by
  unfold Chat.send
  refine Keeps.bridge.bind fun sink => ?_
  rcases sink with _ | _ | sink
  · exact (C.sendReport _).bind fun _ => Keeps.pure
  · exact (C.callBack_keeps player text).bind fun _ => Keeps.pure
  · exact (C.sink sink player text).bind fun _ => Keeps.pure

theorem installCallback_keeps : Keeps I H (Chat.installCallback F) := by
  unfold Chat.installCallback
  refine (C.about (.preload Chat.callbackKey) rfl).bind fun r => ?_
  cases r with
  | error e => exact (C.sendReport _).bind fun _ => Keeps.pure
  | ok _ => exact (Keeps.modify fun _ => C.chatSink _).bind fun _ => Keeps.pure

theorem callHandler_keeps (k : EventKind) (args : Args k.params) :
    Keeps I H (Dispatch.callHandler F k args) := by
  unfold Dispatch.callHandler
  refine Keeps.bridge.bind fun handlers => ?_
  split
  · exact C.handler _ k args
  · exact Keeps.pure

/-- Every call of the interface keeps the invariant that is not about objects, memory or reports,
and neither ends a session nor clears the cache. -/
theorem op_keeps (o : Op P α) (other : o.isPlain = false) (use : o.isClearing = false) :
    Keeps I H (Op.run F o) := by
  by_cases about : o.key?.isSome = true
  · exact C.about o about
  cases o with
  | launch path => exact C.launch path
  | launchWith path config => exact C.launchWith path config
  | tick => exact C.tick
  | phase => exact Keeps.bridge
  | serviceUrl =>
    have asked : Keeps I H (Lifecycle.isRunning (P := P)) := by
      unfold Lifecycle.isRunning Lifecycle.phase
      exact Keeps.bridge.bind fun _ => Keeps.pure
    refine asked.bind fun running => ?_
    split
    · exact Keeps.bridge
    · exact Keeps.pure
  | setEnvironment environment =>
    exact Keeps.gets.bind fun _ =>
      (Keeps.modify fun _ => C.environment _).bind fun _ => Keeps.pure
  | dispatch k args => exact C.dispatch k args
  | callHandler k args => exact C.callHandler_keeps k args
  | setHandler k handler => exact Keeps.modify fun _ => C.handlers _
  | clearHandlers => exact Keeps.modify fun _ => C.handlers _
  | handlers => exact Triple.gets fun _ h => h
  | setSink sink => exact Keeps.modify fun _ => C.chatSink _
  | installCallback => exact C.installCallback_keeps
  | hasSink => exact Triple.gets fun _ h => h
  | sendChat player text => exact C.send_keeps player text
  | memberCounts => exact Triple.gets fun _ h => h
  | depth => exact Triple.gets fun _ h => h
  | isInside => exact Triple.gets fun _ h => h
  | shutdown => cases use
  | clearMembers => cases use
  | copyHandle _ | release _ | releaseAll | handleCount => cases other
  | place _ | readBuffer _ | free _ | report _ => cases other
  | _ => exact absurd rfl about

end InterfaceContract

/-! ### Programs -/

namespace UseContract

variable {F : Foreign P (Exec P)} {ι : Type} {I : ι → State P → Prop} {H : State P → Prop}
  (C : UseContract F I H) (i : ι)
include C

theorem recordOwn {e : Happening P} (own : e.isOwn = true) :
    Keeps (I i) H (Exec.record e) :=
  Keeps.record fun _ => (C.blind i).record e own

theorem interface : InterfaceContract F (I i) H where
  toDetached := (C.withstands i).toDetached
  handlers r := (C.blind i).set r _ _ _
  chatSink c := (C.blind i).set _ c _ _
  environment e := (C.blind i).set _ _ e _
  handler h k args := (C.recordOwn i rfl).bind fun _ => C.handler i h k args
  sink s player text := (C.recordOwn i rfl).bind fun _ => C.sink i s player text
  about o about := C.about_keeps i o about
  launch := C.launch i
  launchWith := C.launchWith i
  tick := C.tick i
  dispatch := C.dispatch i

/-- Every call of the interface that neither ends a session nor clears the cache keeps the
invariants. -/
theorem op_keeps (o : Op P α) (use : o.isClearing = false) : Keeps (I i) H (Op.run F o) := by
  by_cases plain : o.isPlain = true
  · exact (C.withstands i).plain_keeps o plain
  · exact (C.interface i).op_keeps o (Bool.eq_false_iff.mpr plain) use

/-- What a program does besides calls of the interface keeps the invariants. -/
theorem note_keeps (n : P.Note) : Keeps (I i) H ((Act.note n : Act P Unit).run F) :=
  C.recordOwn i rfl

theorem world_keeps (f : P.World → α × P.World) : Keeps (I i) H ((Act.world f).run F) :=
  fun _ hs => (C.blind i).set _ _ _ _ hs

end UseContract

namespace ProgramContract

variable {F : Foreign P (Exec P)} {ι : Type} {I : ι → State P → Prop} {H : State P → Prop}
  (C : ProgramContract F I H) (i : ι)
include C

/-- Every call of the interface keeps the invariants. -/
theorem op_keeps (o : Op P α) : Keeps (I i) H (Op.run F o) := by
  by_cases use : o.isClearing = false
  · exact C.toUseContract.op_keeps i o use
  · cases o with
    | shutdown => exact C.shutdown i
    | clearMembers => exact C.clearMembers i
    | _ => exact absurd rfl use

/-- Every program keeps the invariants. -/
theorem act_keeps (a : Act P α) : Keeps (I i) H (a.run F) := by
  induction a with
  | pure a => exact Keeps.pure
  | bind x f ihx ihf => exact ihx.bind ihf
  | panic message => exact Keeps.panic
  | attempt x ih => exact ih.attempt
  | note n => exact C.note_keeps i n
  | world f => exact C.world_keeps i f
  | op o => exact C.op_keeps i o
  | extra o => exact C.extra i o

end ProgramContract

namespace System

/-- An invariant that the cache and the calls on the host have no part in is one that knows nothing
if programs, of which all foreign code is made, keep it. -/
theorem unaware_ofPrograms {F : Foreign P (Act P)} {limit : Nat} {I H : State P → Prop}
    (inert : Inert I H)
    (members : ∀ {s} (c : MemberCache P.Class P.Member), I s →
      I { s with bridge := { s.bridge with members := c } })
    (hostCall : ∀ {s} (c : HostCall P), I s → I { s with record := .host c :: s.record })
    (run : ∀ {β : Type} (b : Act P β), Keeps I H ((ofPrograms F).exec limit b)) :
    Unaware ((ofPrograms F).foreign limit) I H where
  toWithstands := inert.withstands _
  members := members
  hostCall := hostCall
  resolveType _ := run _
  resolveMember _ _ := run _
  construct _ _ _ := run _
  invoke _ _ _ _ := run _
  readField _ _ _ := run _
  writeField _ _ _ := run _

/-- Every execution keeps the invariants if the foreign code at each depth withstands them whenever
the executions at that depth do. -/
theorem exec_keeps {S : System P} {ι : Type} {I : ι → State P → Prop} {H : State P → Prop}
    (halts : ∀ i s, I i s → H s)
    (contract : ∀ limit, (∀ {β : Type} (b : Act P β) i, Keeps (I i) H (S.exec limit b)) →
      ProgramContract (S.foreign limit) I H)
    (limit : Nat) (a : Act P α) (i : ι) : Keeps (I i) H (S.exec limit a) := by
  induction limit generalizing α i with
  | zero => exact Keeps.halt (halts i)
  | succ limit ih => exact (contract limit fun b i => ih b i).act_keeps i a

/-- Programs one after another, each on its thread, up to the first that does not come back. -/
def runTurns (S : System P) (limit : Nat) : List (ThreadId × Act P Unit) → State P → State P
  | [], s => s
  | (thread, a) :: rest, s =>
    match S.exec limit a { s with thread := thread } with
    | (.halt _, s) => s
    | (_, s) => S.runTurns limit rest s

theorem runTurns_cons {S : System P} {limit : Nat} {thread : ThreadId} {a : Act P Unit}
    {rest : List (ThreadId × Act P Unit)} {s t : State P}
    (ran : S.exec limit a { s with thread := thread } = (.value (), t)) :
    S.runTurns limit ((thread, a) :: rest) s = S.runTurns limit rest t := by
  rw [runTurns, ran]

/-- What each of the programs keeps, and a change of threads too, holds after them. -/
theorem runTurns_keeps_each {S : System P} {limit : Nat} {I H : State P → Prop}
    (halts : ∀ s, I s → H s) (onThread : ∀ s thread, I s → I { s with thread := thread })
    (turns : List (ThreadId × Act P Unit)) (kept : ∀ turn ∈ turns, Keeps I H (S.exec limit turn.2))
    {s : State P} (hs : I s) : H (S.runTurns limit turns s) := by
  induction turns generalizing s with
  | nil => exact halts s hs
  | cons turn rest ih =>
    obtain ⟨thread, a⟩ := turn
    have h := kept (thread, a) List.mem_cons_self { s with thread := thread } (onThread s thread hs)
    have later := @ih fun turn later => kept turn (List.mem_cons_of_mem _ later)
    unfold runTurns
    rcases hrun : S.exec limit a { s with thread := thread } with ⟨r | m | w, t⟩ <;>
      rw [hrun] at h
    · exact later h
    · exact later h
    · exact h

/-- What every program keeps, and a change of threads too, holds after any turns. -/
theorem runTurns_keeps {S : System P} {limit : Nat} {I H : State P → Prop}
    (halts : ∀ s, I s → H s) (onThread : ∀ s thread, I s → I { s with thread := thread })
    (kept : ∀ a : Act P Unit, Keeps I H (S.exec limit a)) (turns : List (ThreadId × Act P Unit))
    {s : State P} (hs : I s) : H (S.runTurns limit turns s) :=
  runTurns_keeps_each halts onThread turns (fun _ _ => kept _) hs

end System
end HostBridge
