import HostBridge.Export.Calls
import HostBridge.Proofs.Plain
import HostBridge.Proofs.Stages

/-!
Dynamic operations fail closed. An operation that fails gives zero and reports its failure once, and
it has gone no further than the stage at which it failed. The exported calls do the same with names
that are none.
-/
namespace HostBridge

variable {P : Platform} {α β : Type}

/-- The state with one report more. -/
def State.report (s : State P) (d : Diagnostic) : State P :=
  { s with record := .diagnostic d :: s.record }

namespace Operation

/-- What a failed attempt did by itself, by the stage at which it failed. -/
inductive FailedAt (o : Operation α) : CallError → List (Deed P) → Prop
  | check {e} (why : o.refusal? = some e) : FailedAt o e []
  | type (e) : FailedAt o (.host e) [.asked (.type o.key.className) (.value (.error e))]
  | receiver {c ds h} (typed : Typed o.key.className c ds) (on : o.target = .instance h) :
    FailedAt o (.nullReceiver h) (ds ++ [.lookedUp h none])
  | member {c r ds} (received : ToReceiver o c r ds) (e) :
    FailedAt o (.host e) (ds ++ [.asked (.member c o.key) (.value (.error e))])
  | use {c r m ds a} (reached : ToMember o c r m ds) (uses : o.Uses c r m a) (e) :
    FailedAt o (.host e) (ds ++ [.asked a (.value (.error e))])

theorem Attempted.failedAt {o : Operation α} {e : CallError} {ds : List (Deed P)}
    (h : Attempted o (.value (.error e)) ds) : FailedAt o e ds := by
  cases h with
  | refused why => exact .check why
  | atType stops => cases stops; exact .type _
  | noReceiver typed on => exact .receiver typed on
  | atMember received stops => cases stops; exact .member received _
  | atUse reached uses stops => cases stops; exact .use reached uses _

/-- A failed attempt has looked things up and learnt them, and perhaps used a member. -/
theorem FailedAt.keepsHandles {o : Operation α} {e : CallError} {ds : List (Deed P)}
    (h : FailedAt o e ds) : ∀ d ∈ ds, d.KeepsHandles := by
  have more {ds : List (Deed P)} {last : Deed P} (before : ∀ d ∈ ds, d.isPrelude = true)
      (kept : last.KeepsHandles) : ∀ d ∈ ds ++ [last], d.KeepsHandles :=
    List.forall_mem_append.mpr
      ⟨fun d mem => d.keepsHandles_of_prelude (before d mem), List.forall_mem_singleton.mpr kept⟩
  cases h with
  | check why => exact List.forall_mem_nil _
  | type e => exact List.forall_mem_singleton.mpr trivial
  | receiver typed on => exact more typed.prelude trivial
  | member received e => exact more received.prelude trivial
  | use reached uses e => exact more reached.prelude trivial

/-- A failure is reported, and zero is the answer. -/
theorem run_failed {F : Foreign P (Exec P)} {o : Operation α} {s t : State P} {e : CallError}
    (failed : (o.attempt F).run s = (.value (.error e), t)) :
    (o.op (P := P)).run F s = (.value o.zero, t.report (o.failure e)) := by
  rw [run_eq, Exec.run_bind, failed]
  rfl

end Operation

/-! ### Failures of the host -/

section
variable {ds : List (Deed P)} {a : Ask P} {e : HostError}

theorem Typed.unfailed {name : String} {c : P.Class} (typed : Typed name c ds) :
    .asked a (.value (.error e)) ∉ ds := by
  cases typed <;> simp

theorem Membered.unfailed {c : P.Class} {key : MemberKey} {m : P.Member}
    (membered : Membered c key m ds) : .asked a (.value (.error e)) ∉ ds := by
  cases membered <;> simp

namespace Operation

variable {o : Operation α} {c : P.Class} {r : Receiver P.Object P.Class}

theorem ToReceiver.unfailed (received : ToReceiver o c r ds) :
    .asked a (.value (.error e)) ∉ ds := by
  cases received with
  | static typed on => exact typed.unfailed
  | «instance» typed on => simp [typed.unfailed]

theorem ToMember.unfailed {m : P.Member} (reached : ToMember o c r m ds) :
    .asked a (.value (.error e)) ∉ ds := by
  obtain ⟨received, membered⟩ := reached
  simp [received.unfailed, membered.unfailed]

/-- A failure of the host is the end of an attempt. One to look the type up is all there is. -/
theorem Attempted.of_failed {out : Outcome (Except CallError α)} (h : Attempted o out ds)
    (failed : .asked a (.value (.error e)) ∈ ds) :
    out = .value (.error (.host e)) ∧
      ∀ name, a = .type name → ds = [.asked a (.value (.error e))] := by
  -- a failure can only be that of the last question
  have last {before : List (Deed P)} {b : Ask P} {came : Outcome (Except HostError (HostReply P))}
      (unfailed : .asked a (.value (.error e)) ∉ before)
      (failed : .asked a (.value (.error e)) ∈ before ++ [.asked b came]) :
      a = b ∧ came = .value (.error e) := by
    rcases List.mem_append.mp failed with earlier | now
    · exact absurd earlier unfailed
    · cases List.mem_singleton.mp now
      exact ⟨rfl, rfl⟩
  cases h with
  | refused why => cases failed
  | atType stops =>
    cases List.mem_singleton.mp failed
    cases stops
    exact ⟨rfl, fun _ _ => rfl⟩
  | wildWord typed => exact absurd failed typed.unfailed
  | noReceiver typed on => exact absurd failed (by simp [typed.unfailed])
  | atMember received stops =>
    obtain ⟨rfl, rfl⟩ := last received.unfailed failed
    cases stops
    exact ⟨rfl, fun _ => nofun⟩
  | wildArgument reached => exact absurd failed reached.unfailed
  | atUse reached uses stops =>
    obtain ⟨rfl, rfl⟩ := last reached.unfailed failed
    cases stops
    refine ⟨rfl, ?_⟩
    rintro name rfl
    cases uses.isLookup_eq
  | done reached => exact absurd failed (by simp [reached.unfailed])
  | kept reached => exact absurd failed (by simp [reached.unfailed])

end Operation
end

/-! ### Operations that stop early -/

/-- No object is behind the handle. -/
def State.NotLive (s : State P) (h : Handle) : Prop :=
  h.isNull = true ∨ s.bridge.handles.find? h = none

theorem State.NotLive.get {s : State P} {h : Handle} (dead : s.NotLive h) :
    (s.bridge.handles.get h).1 = none := by
  unfold HandleTable.get
  rcases dead with null | none
  · rw [if_pos null]
  · rw [none]
    split <;> rfl

theorem State.NotLive.quiet {s t : State P} {h : Handle} (dead : s.NotLive h) (quiet : Quiet s t) :
    t.NotLive h :=
  dead.imp_right fun none => (quiet.find? h).trans none

/-- A call that quietly ends for want of a receiver, unless an address that it reads names no
buffer. -/
def Deserts (h : Handle) (t : State P) (x : Call P α) : Prop :=
  ∃ u, Quiet t u ∧ (x.run t = (.value (.error (.nullReceiver h)), u) ∨
    ∃ address, x.run t = (.halt (.wildPointer address), u))

namespace Deserts

variable {F : Foreign P (Exec P)} {h : Handle} {t : State P} {x : Call P α}

theorem ensure {after : Exec P Unit} (hx : Deserts h t x) (ha : Hushed after) :
    Deserts h t (Call.ensure x after) := by
  obtain ⟨u, quiet, ended⟩ := hx
  obtain ⟨v, run, quiet'⟩ := ha.ensured x.run t
  refine ⟨v, quiet.trans ?_, ended.imp (fun run' => ?_) fun ⟨address, run'⟩ => ⟨address, ?_⟩⟩
  · rcases ended with run' | ⟨_, run'⟩ <;> rwa [run'] at quiet'
  · exact run.trans (by rw [run'])
  · exact run.trans (by rw [run'])

theorem withReceiver {target : Call.Target} {c : P.Class}
    {body : Receiver P.Object P.Class → Call P α} (on : target = .instance h)
    (dead : t.NotLive h) : Deserts h t (Call.withReceiver F target c body) := by
  subst on
  obtain ⟨u, run, quiet⟩ := Objects.lookup_quiet F h t
  refine ⟨u, quiet, .inl ?_⟩
  unfold Call.withReceiver
  dsimp only
  rw [Call.run_lift_bind, Exec.run_bind, run, dead.get]
  rfl

/-- What is read before leaves the receiver as it is. -/
theorem after_reads {y : Exec P β} {k : β → Call P α} (hy : Reads y)
    (next : ∀ b u, Quiet t u → Deserts h u (k b)) : Deserts h t ((liftM y : Call P β) >>= k) := by
  unfold Deserts
  rw [Call.run_lift_bind, Exec.run_bind]
  obtain ⟨u, quiet, ⟨b, run⟩ | ⟨address, run⟩⟩ := hy t
  · obtain ⟨v, quiet', ended⟩ := next b u quiet
    rw [run]
    exact ⟨v, quiet.trans quiet', ended⟩
  · rw [run]
    exact ⟨u, quiet, .inr ⟨address, rfl⟩⟩

end Deserts

namespace Operation

variable {F : Foreign P (Exec P)} {o : Operation α} {s t : State P}

/-- An operation is refused at once, or it looks its type up and, without a receiver, ends there. -/
theorem attempt_cases (F : Foreign P (Exec P)) (o : Operation α) :
    (∃ e, o.refusal? = some e ∧ o.attempt F = throw e) ∨
    (o.refusal? = none ∧ ∃ body : P.Class → Call P α,
      o.attempt F = Call.withType F o.key.className body ∧
        ∀ c h t, o.target = .instance h → t.NotLive h → Deserts h t (body c)) := by
  cases o with
  | create className signature words =>
    simp only [refusal?, attempt, Call.construct]
    cases Descriptor.parseMethod signature with
    | error e => exact .inl ⟨_, rfl, rfl⟩
    | ok d =>
      rw [Call.ofDescriptor_ok, pure_bind]
      dsimp only
      split
      · exact .inl ⟨_, rfl, rfl⟩
      · refine .inr ⟨rfl, _, rfl, fun c h t on => ?_⟩
        cases on
  | call target className name signature requested words =>
    simp only [refusal?, attempt, Call.invoke, Call.hostKind]
    cases Descriptor.parseMethod signature with
    | error e => exact .inl ⟨_, rfl, rfl⟩
    | ok d =>
      rw [Call.ofDescriptor_ok, pure_bind]
      dsimp only
      split
      · exact .inr ⟨rfl, _, rfl, fun c h t on dead => .withReceiver on dead⟩
      · exact .inl ⟨_, rfl, rfl⟩
  | get target className name descriptor requested =>
    simp only [refusal?, attempt, Call.read, Call.hostKind]
    cases Descriptor.parseField descriptor with
    | error e => exact .inl ⟨_, rfl, rfl⟩
    | ok declared =>
      rw [Call.ofDescriptor_ok, pure_bind]
      dsimp only
      split
      · exact .inr ⟨rfl, _, rfl, fun c h t on dead => .withReceiver on dead⟩
      · exact .inl ⟨_, rfl, rfl⟩
  | set target className name descriptor requested w =>
    simp only [refusal?, attempt, Call.write]
    cases Descriptor.parseField descriptor with
    | error e => exact .inl ⟨_, rfl, rfl⟩
    | ok declared =>
      rw [Call.ofDescriptor_ok, pure_bind]
      dsimp only
      split
      · exact .inl ⟨_, rfl, rfl⟩
      · refine .inr ⟨rfl, _, rfl, fun c h t on dead => ?_⟩
        exact .after_reads (Reads.decode F declared w) fun v u quiet =>
          (Deserts.withReceiver on (dead.quiet quiet)).ensure (Hushed.dropValue F v)

end Operation

/-- The operation whose failure a report is about. -/
def Diagnostic.operation? : Diagnostic → Option CallName
  | createFailed .. => some .createObject
  | callFailed call _ _ _ | nameRejected call _ => some call
  | _ => none

theorem Operation.failure_operation (o : Operation α) (e : CallError) :
    (o.failure e).level = .warning ∧ (o.failure e).operation? = some o.name := by
  cases o <;> exact ⟨rfl, rfl⟩

/-- How an operation ends when it cannot do what it was asked for. -/
structure FailsClosed (F : Foreign P (Exec P)) (o : Operation α) (s : State P) : Prop where
  /-- What is refused is not tried: nothing at all changes. -/
  refused : ∀ e, o.refusal? = some e → (o.attempt F).run s = (.value (.error e), s)
  /-- Without its type nothing else is done. -/
  untyped : ∀ e t, o.refusal? = none →
    Members.type F o.key.className s = (.value (.error e), t) →
    (o.attempt F).run s = (.value (.error (.host e)), t)
  /-- When the receiver is not live once the type was looked up, the host is asked for nothing
  more. -/
  deserted : ∀ c h t, o.refusal? = none → o.target = .instance h →
    Members.type F o.key.className s = (.value (.ok c), t) → t.NotLive h →
    ∃ u, Quiet t u ∧ ((o.attempt F).run s = (.value (.error (.nullReceiver h)), u) ∨
      ∃ address, (o.attempt F).run s = (.halt (.wildPointer address), u))
  /-- However an attempt comes out, it has gone through its stages in order, up to the first that
  stopped it. -/
  staged : ∃ ds, Trail F s ds ((o.attempt F).run s).2 ∧ o.Attempted ((o.attempt F).run s).1 ds
  /-- A failure is answered by zero and reported once. By itself the operation has kept or released
  no object, and the cache has only what it learnt. -/
  failed : ∀ e t, (o.attempt F).run s = (.value (.error e), t) →
    (o.op (P := P)).run F s = (.value o.zero, t.report (o.failure e)) ∧
      (o.failure e).level = .warning ∧ (o.failure e).operation? = some o.name ∧
      ∃ ds, Trail F s ds t ∧ o.FailedAt e ds ∧ ∀ d ∈ ds, d.KeepsHandles

/-- A failure that came about in stages. -/
theorem Operation.failed_with {F : Foreign P (Exec P)} {o : Operation α} {s t : State P}
    {e : CallError} (staged : ∃ ds, Trail F s ds ((o.attempt F).run s).2 ∧
      o.Attempted ((o.attempt F).run s).1 ds)
    (failed : (o.attempt F).run s = (.value (.error e), t)) :
    (o.op (P := P)).run F s = (.value o.zero, t.report (o.failure e)) ∧
      (o.failure e).level = .warning ∧ (o.failure e).operation? = some o.name ∧
      ∃ ds, Trail F s ds t ∧ o.FailedAt e ds ∧ ∀ d ∈ ds, d.KeepsHandles := by
  obtain ⟨ds, trail, attempted⟩ := staged
  rw [failed] at trail attempted
  exact ⟨run_failed failed, (o.failure_operation e).1, (o.failure_operation e).2, ds, trail,
    attempted.failedAt, attempted.failedAt.keepsHandles⟩

theorem Operation.failsClosed (F : Foreign P (Exec P)) (o : Operation α) (s : State P) :
    FailsClosed F o s := by
  have staged : ∃ ds, Trail F s ds ((o.attempt F).run s).2 ∧
      o.Attempted ((o.attempt F).run s).1 ds := o.attempt_tells s
  obtain ⟨e, why, refuses⟩ | ⟨fits, body, tried, deserts⟩ := o.attempt_cases F
  · refine ⟨fun e' why' => ?_, fun _ _ fits => ?_, fun _ _ _ fits => ?_, staged, ?_⟩
    · rw [refuses, Option.some.inj (why'.symm.trans why)]
      rfl
    · rw [why] at fits
      cases fits
    · rw [why] at fits
      cases fits
    · exact fun e t failed => Operation.failed_with staged failed
  · refine ⟨fun e' why' => ?_, fun e t _ missing => ?_, fun c h t _ on found dead => ?_, staged, ?_⟩
    · rw [fits] at why'
      cases why'
    · rw [tried, Call.withType_cached, Call.run_ofHost_bind, Exec.run_bind, missing]
      rfl
    · obtain ⟨u, quiet, ended⟩ :=
        (deserts c h t on dead).ensure (Hushed.upkeep (F.host.dropClass c))
      refine ⟨u, quiet, ?_⟩
      rw [tried, Call.withType_cached, Call.run_ofHost_bind, Exec.run_bind, found]
      exact ended
    · exact fun e t failed => Operation.failed_with staged failed

/-! ### Exported calls -/

namespace Export

/-- The exported dynamic calls, by the type of their answers. -/
inductive Dynamic : Type → Type where
  | create (className signature : UInt64) (args : Arguments) : Dynamic Handle
  | call (t : CType) (target : Call.Target) (names : MemberNames) (args : Arguments) :
      Dynamic t.Carrier
  | get (t : CType) (target : Call.Target) (names : MemberNames) : Dynamic t.Carrier
  | set (t : CType) (target : Call.Target) (names : MemberNames) (value : t.Carrier) : Dynamic Unit

namespace Dynamic

def act : Dynamic α → Act P α
  | create className signature args => createObject className signature args
  | call t target names args => callMethod t target names args
  | get t target names => getField t target names
  | set t target names value => setField t target names value

/-- The addresses of the names, in the order in which they are read. -/
def addresses : Dynamic α → List UInt64
  | create className signature _ => [className, signature]
  | call _ _ names _ | get _ _ names | set _ _ names _ =>
    [names.className, names.name, names.descriptor]

/-- The zero of the result. -/
def zero : Dynamic α → α
  | create .. => .null
  | call t _ _ _ => t.ofWord .zero
  | get t _ _ => t.ofWord .zero
  | set .. => ()

def name : Dynamic α → CallName
  | create .. => .createObject
  | call _ (.instance _) .. => .callMethod
  | call _ .static .. => .callStaticMethod
  | get _ (.instance _) _ => .getField
  | get _ .static _ => .getStaticField
  | set _ (.instance _) .. => .setField
  | set _ .static .. => .setStaticField

/-- The operation that goes with some names, as the exported call answers it. -/
def operation (F : Foreign P (Exec P)) : Dynamic α → List String → Option (Exec P α)
  | create _ _ args, [className, signature] =>
    some ((Operation.create className signature args.words).op.run F)
  | call t target _ args, [className, name, signature] =>
    some (t.ofWord <$>
      (Operation.call target className name signature t.kind args.words).op.run F)
  | get t target _, [className, name, descriptor] =>
    some (t.ofWord <$> (Operation.get target className name descriptor t.kind).op.run F)
  | set t target _ value, [className, name, descriptor] =>
    some ((Operation.set target className name descriptor t.kind (t.toWord value)).op.run F)
  | _, _ => none

end Dynamic

/-- A name is at the address. -/
def NamedAt (m : Memory) (address : UInt64) (name : String) : Prop :=
  address ≠ 0 ∧ ∃ buffer, m.buffer? address = some buffer ∧
    Utf8.decode? (cBytes buffer) = some name

/-- The address is null, or it is one of bytes that are no text. -/
def NamelessAt (m : Memory) (address : UInt64) : Prop :=
  address = 0 ∨ ∃ buffer, m.buffer? address = some buffer ∧ Utf8.decode? (cBytes buffer) = none

/-- One of the addresses names nothing, and those before it do. -/
def Nameless (m : Memory) (addresses : List UInt64) : Prop :=
  ∃ before address after names, addresses = before ++ address :: after ∧
    List.Forall₂ (NamedAt m) before names ∧ NamelessAt m address

variable {F : Foreign P (Exec P)} {s : State P}

theorem bytesAt_run {address : UInt64} {buffer : List UInt8} (nonzero : address ≠ 0)
    (found : s.memory.buffer? address = some buffer) :
    (bytesAt (P := P) address).run F s = (.value (some (cBytes buffer)), s) := by
  have read : Op.bufferAt (P := P) address s = (.value buffer, s) := by
    rw [Op.bufferAt, Exec.run_bind, Exec.run_gets, found]
    rfl
  rw [bytesAt, if_neg nonzero]
  change (Op.bufferAt address >>= fun b => pure (some (cBytes b))) s = _
  rw [Exec.run_bind, read]
  rfl

theorem nameAt_run {address : UInt64} {bytes : Option (List UInt8)}
    (read : (bytesAt (P := P) address).run F s = (.value bytes, s)) :
    (nameAt (P := P) address).run F s = (.value (bytes.bind Utf8.decode?), s) := by
  change ((bytesAt address).run F >>= fun b => pure (b.bind Utf8.decode?)) s = _
  rw [Exec.run_bind, read]
  rfl

theorem nameAt_named {address : UInt64} {name : String} (named : NamedAt s.memory address name) :
    (nameAt (P := P) address).run F s = (.value (some name), s) := by
  obtain ⟨nonzero, buffer, found, text⟩ := named
  rw [nameAt_run (bytesAt_run nonzero found), Option.bind_some, text]

theorem nameAt_nameless {address : UInt64} (nameless : NamelessAt s.memory address) :
    (nameAt (P := P) address).run F s = (.value none, s) := by
  by_cases zero : address = 0
  · have read : (bytesAt (P := P) address).run F s = (.value none, s) := by
      rw [bytesAt, if_pos zero]
      rfl
    exact nameAt_run read
  · obtain ⟨buffer, found, noText⟩ := nameless.resolve_left zero
    rw [nameAt_run (bytesAt_run zero found), Option.bind_some, noText]

/-- A program goes on from what its first part came to. -/
theorem run_after {x : Act P β} {f : β → Act P α} {b : β} {t : State P}
    (first : x.run F s = (.value b, t)) : (x >>= f).run F s = (f b).run F t := by
  change (x.run F >>= fun b => (f b).run F) s = _
  rw [Exec.run_bind, first]

theorem namesAt_named {addresses : List UInt64} {names : List String}
    (named : List.Forall₂ (NamedAt s.memory) addresses names) :
    (namesAt (P := P) addresses).run F s = (.value (some names), s) := by
  induction named with
  | nil => rfl
  | cons first rest ih =>
    rw [namesAt, run_after (nameAt_named first)]
    exact run_after ih

theorem namesAt_nameless {addresses : List UInt64} (nameless : Nameless s.memory addresses) :
    (namesAt (P := P) addresses).run F s = (.value none, s) := by
  obtain ⟨before, address, after, names, rfl, named, nameless⟩ := nameless
  induction named with
  | nil =>
    rw [List.nil_append, namesAt, run_after (nameAt_nameless nameless)]
    rfl
  | cons first rest ih =>
    rw [List.cons_append, namesAt, run_after (nameAt_named first)]
    exact run_after ih

theorem withNames_nameless {call : CallName} {names : MemberNames}
    {body : String → String → String → Act P Word}
    (nameless : Nameless s.memory [names.className, names.name, names.descriptor]) :
    (withNames call names body).run F s =
      (.value .zero, s.report (.nameRejected call .badName)) :=
  run_after (namesAt_nameless nameless)

/-- A call with a name that is none does nothing but report that, and answers zero. -/
theorem Dynamic.act_nameless (d : Dynamic α) (nameless : Nameless s.memory d.addresses) :
    d.act.run F s = (.value d.zero, s.report (.nameRejected d.name .badName)) := by
  cases d with
  | create className signature args => exact run_after (namesAt_nameless nameless)
  | call t target names args =>
    cases target <;> exact run_after (withNames_nameless nameless)
  | get t target names =>
    cases target <;> exact run_after (withNames_nameless nameless)
  | set t target names value =>
    cases target <;> exact run_after (withNames_nameless nameless)

/-- The word of an operation leaves as what the result type holds of it. -/
theorem withNames_named {call : CallName} {names : MemberNames} {c n g : String}
    {body : String → String → String → Act P Word} {x : Exec P Word} (f : Word → α)
    (read : (namesAt [names.className, names.name, names.descriptor]).run F s =
      (.value (some [c, n, g]), s))
    (same : (body c n g).run F = x) :
    (do return f (← withNames call names body) : Act P α).run F s = (f <$> x) s := by
  have inner : (withNames call names body).run F s = x s :=
    (run_after read).trans (congrFun same s)
  change ((withNames call names body).run F >>= fun w => pure (f w)) s = _
  rw [Exec.run_map, Exec.run_bind, inner]
  rcases x s with ⟨w | m | w, t⟩ <;> rfl

/-- A call with names is the operation. -/
theorem Dynamic.act_named (d : Dynamic α) {names : List String} {x : Exec P α}
    (named : List.Forall₂ (NamedAt s.memory) d.addresses names)
    (asked : d.operation F names = some x) : d.act.run F s = x s := by
  have read := namesAt_named (F := F) named
  cases d with
  | create className signature args =>
    match names, asked with
    | [c, g], rfl => exact run_after read
  | call t target ns args =>
    match names, asked with
    | [c, n, g], rfl => cases target <;> exact withNames_named t.ofWord read rfl
  | get t target ns =>
    match names, asked with
    | [c, n, g], rfl => cases target <;> exact withNames_named t.ofWord read rfl
  | set t target ns value =>
    match names, asked with
    | [c, n, g], rfl =>
      let o := Operation.set target c n g t.kind (t.toWord value)
      have same : (fun _ => ()) <$> ((o.op.run F >>= fun _ => pure .zero) : Exec P Word) =
          o.op.run F := by
        funext u
        rw [Exec.run_map, Exec.run_bind]
        rcases o.op.run F u with ⟨⟨⟩ | m | w, v⟩ <;> rfl
      rw [← congrFun same s]
      cases target <;> exact withNames_named (fun _ => ()) read rfl

end Export

/-! ### The interface -/

/-- Operations fail closed from every state, over any host and with any arguments. An exported call
is the operation that its names ask for, and with a name that is none it only reports that. -/
theorem operations_failClosed (F : Foreign P (Exec P)) :
    (∀ {α : Type} (o : Operation α) (s : State P), FailsClosed F o s) ∧
    (∀ {α : Type} (d : Export.Dynamic α) (s : State P), Export.Nameless s.memory d.addresses →
      d.act.run F s = (.value d.zero, s.report (.nameRejected d.name .badName))) ∧
    (∀ {α : Type} (d : Export.Dynamic α) (s : State P) (names : List String) (x : Exec P α),
      List.Forall₂ (Export.NamedAt s.memory) d.addresses names →
      d.operation F names = some x → d.act.run F s = x s) :=
  ⟨fun o s => o.failsClosed F s, fun d _ nameless => d.act_nameless nameless,
    fun d _ _ _ named asked => d.act_named named asked⟩

/-- In the plain world a call without a receiver looks its type up and gives zero, and so does an
exported read without names, which asks for nothing. -/
theorem operations_failClosed_plain :
    let F := (System.ofPrograms (Plain.foreign (pure (.ok ())))).foreign 1
    let o := Operation.call (.instance .null) "Point" "norm" "()I" .int []
    let d := Export.Dynamic.get .int .static ⟨0, 0, 0⟩
    let t := ((o.attempt F).run Plain.start).2
    (o.attempt F).run Plain.start = (.value (.error (.nullReceiver .null)), t) ∧
      o.op.run F Plain.start =
        (.value .zero, t.report (.callFailed .callMethod "Point" "norm" (.nullReceiver .null))) ∧
      Export.Nameless Plain.start.memory d.addresses ∧
      d.act.run F Plain.start =
        (.value d.zero, Plain.start.report (.nameRejected .getStaticField .badName)) := by
  intro F o d t
  obtain ⟨closed, rejects, -⟩ := operations_failClosed F
  have failed : (o.attempt F).run Plain.start = (.value (.error (.nullReceiver .null)), t) := rfl
  have nameless : Export.Nameless Plain.start.memory d.addresses :=
    ⟨[], 0, [0, 0], [], rfl, .nil, .inl rfl⟩
  exact ⟨failed, ((closed o Plain.start).failed _ t failed).1, nameless,
    rejects d Plain.start nameless⟩

end HostBridge
