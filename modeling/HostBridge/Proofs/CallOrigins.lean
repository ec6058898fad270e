import HostBridge.Proofs.HandleAccounts
import HostBridge.Proofs.HostCalls

/-!
Where calls on the host come from. In a run of dynamic operations, nested through the programs of
the host to any depth, every call on the host is a question of one operation, which asks for its own
type, for its own member, and for the use of that member that it is for; and every token is the
answer of the host to such a question.
-/
namespace HostBridge

variable {P : Platform} {α : Type}

/-! ### What an operation asks -/

/-- What a call of the interface may ask of the host: for the type and the member that it is about,
and for its own use of that member. -/
inductive Op.MayAsk : {α : Type} → Op P α → Ask P → Prop
  | type {α : Type} {o : Op P α} {key} (about : o.key? = some key) : MayAsk o (.type key.className)
  | member {α : Type} {o : Op P α} {key c} (about : o.key? = some key) : MayAsk o (.member c key)
  | construct {className signature words c m args} :
    MayAsk (.createObject className signature words)
      (.construct ⟨className, Call.constructorName, signature, .constructor⟩ c m args)
  | invoke {target className name signature requested words r m kind args} :
    MayAsk (.callMethod target className name signature requested words)
      (.invoke ⟨className, name, signature, target.methodKind⟩ r m kind args)
  | readField {target className name descriptor requested r m kind} :
    MayAsk (.getField target className name descriptor requested)
      (.readField ⟨className, name, descriptor, target.fieldKind⟩ r m kind)
  | writeField {target className name descriptor requested w r m v} :
    MayAsk (.setField target className name descriptor requested w)
      (.writeField ⟨className, name, descriptor, target.fieldKind⟩ r m v)

/-- Everything that was asked a call of the interface may ask. -/
def Op.AsksOwn (o : Op P α) (ds : List (Deed P)) : Prop :=
  ∀ a came, .asked a came ∈ ds → o.MayAsk a

namespace Op.AsksOwn

variable {o : Op P α} {ds es : List (Deed P)}

theorem nil : o.AsksOwn [] := fun _ _ => nofun

theorem append (first : o.AsksOwn ds) (second : o.AsksOwn es) : o.AsksOwn (ds ++ es) :=
  fun a came mem => (List.mem_append.mp mem).elim (first a came) (second a came)

theorem single {a : Ask P} {came : Outcome (Except HostError (HostReply P))} (may : o.MayAsk a) :
    o.AsksOwn [.asked a came] := by
  intro _ _ mem
  cases List.mem_singleton.mp mem
  exact may

theorem asked {a : Ask P} {came : Outcome (Except HostError (HostReply P))} (first : o.AsksOwn ds)
    (may : o.MayAsk a) : o.AsksOwn (ds ++ [.asked a came]) :=
  first.append (single may)

theorem other {d : Deed P} (first : o.AsksOwn ds) (other : ∀ a came, d ≠ .asked a came) :
    o.AsksOwn (ds ++ [d]) :=
  first.append fun a came mem => (other a came (List.mem_singleton.mp mem).symm).elim

variable {key : MemberKey} (about : o.key? = some key)
include about

theorem typed {c : P.Class} (typed : Typed key.className c ds) : o.AsksOwn ds := by
  cases typed with
  | known => exact .nil
  | found c => exact (single (.type about)).other fun _ _ => nofun

theorem membered {c : P.Class} {m : P.Member} (membered : Membered c key m ds) :
    o.AsksOwn ds := by
  cases membered with
  | known => exact .nil
  | found m => exact (single (.member about)).other fun _ _ => nofun

theorem preloaded (preloaded : Preloaded key ds) : o.AsksOwn ds := by
  cases preloaded with
  | refused => exact .nil
  | atType came => exact single (.type about)
  | atMember typed came => exact (AsksOwn.typed about typed).asked (.member about)
  | done typed membered =>
    exact (AsksOwn.typed about typed).append (AsksOwn.membered about membered)

end Op.AsksOwn

namespace Operation

theorem op_key? (o : Operation α) : (o.op (P := P)).key? = some o.key := by
  cases o <;> rfl

variable {o : Operation α} {c : P.Class} {r : Receiver P.Object P.Class} {m : P.Member}
  {ds : List (Deed P)}

/-- An operation uses the member of its own names, in its own way. -/
theorem Uses.mayAsk {a : Ask P} (uses : o.Uses c r m a) : o.op.MayAsk a := by
  cases o with
  | create =>
    obtain ⟨args, rfl⟩ := uses
    exact .construct
  | call =>
    obtain ⟨kind, args, rfl⟩ := uses
    exact .invoke
  | get =>
    obtain ⟨kind, rfl⟩ := uses
    exact .readField
  | set =>
    obtain ⟨v, rfl⟩ := uses
    exact .writeField

theorem ToReceiver.asksOwn (received : ToReceiver o c r ds) : o.op.AsksOwn ds := by
  cases received with
  | static typed on => exact .typed o.op_key? typed
  | «instance» typed on => exact (Op.AsksOwn.typed o.op_key? typed).other fun _ _ => nofun

theorem ToMember.asksOwn (reached : ToMember o c r m ds) : o.op.AsksOwn ds := by
  obtain ⟨received, membered⟩ := reached
  exact received.asksOwn.append (.membered o.op_key? membered)

theorem Attempted.asksOwn {out : Outcome (Except CallError α)} (h : Attempted o out ds) :
    o.op.AsksOwn ds := by
  cases h with
  | refused why => exact .nil
  | atType stops => exact .single (.type o.op_key?)
  | wildWord typed => exact .typed o.op_key? typed
  | noReceiver typed on => exact (Op.AsksOwn.typed o.op_key? typed).other fun _ _ => nofun
  | atMember received stops => exact received.asksOwn.asked (.member o.op_key?)
  | wildArgument reached => exact reached.asksOwn
  | atUse reached uses stops => exact reached.asksOwn.asked uses.mayAsk
  | done reached uses none => exact reached.asksOwn.asked uses.mayAsk
  | kept reached uses some =>
    exact (reached.asksOwn.asked uses.mayAsk).other fun _ _ => nofun

theorem run_asks (F : Foreign P (Exec P)) (o : Operation α) (s : State P) :
    Tells F s [] (o.op.run F) fun _ => o.op.AsksOwn :=
  o.run_tells s (fun _ _ attempted => attempted.asksOwn)
    (fun _ _ attempted => attempted.asksOwn.other fun _ _ => nofun)
    (fun _ _ attempted => attempted.asksOwn) fun _ _ attempted => attempted.asksOwn

end Operation

/-- Every call of the interface that is about a member asks only for what is its own. -/
theorem Op.run_asks (F : Foreign P (Exec P)) (o : Op P α) (about : o.key?.isSome = true)
    (s : State P) : Tells F s [] (o.run F) fun _ => o.AsksOwn := by
  cases o with
  | createObject className signature words =>
    exact (Operation.create className signature words).run_asks F s
  | callMethod target className name signature requested words =>
    exact (Operation.call target className name signature requested words).run_asks F s
  | getField target className name descriptor requested =>
    exact (Operation.get target className name descriptor requested).run_asks F s
  | setField target className name descriptor requested w =>
    exact (Operation.set target className name descriptor requested w).run_asks F s
  | preload key =>
    exact (Call.preload_tells F key s).weaken fun _ _ preloaded => .preloaded rfl preloaded
  | _ => cases about

/-! ### The questions of a run -/

/-- A question to the host: the call of the interface that puts it, how deep foreign code may nest
in the answer, and the state in which it is put. -/
structure Question (P : Platform) where
  {α : Type}
  op : Op P α
  ask : Ask P
  limit : Nat
  state : State P

/-- A call of the interface that starts in `s` asks the host in `w`, and goes on to its end when the
host has answered. -/
def Op.AsksAt (F : Foreign P (Act P)) (limit : Nat) (o : Op P α) (s : State P) (a : Ask P)
    (w : State P) : Prop :=
  ∃ ds es, Trail ((System.ofPrograms F).foreign limit) s ds w ∧
    Trail ((System.ofPrograms F).foreign limit) (a.after F limit w) es
      (o.run ((System.ofPrograms F).foreign limit) s).2

/-- A program that starts in a state puts a question, by itself or while the host answers. -/
inductive Act.Poses (F : Foreign P (Act P)) (limit : Nat)
    (inside : Ask P → State P → Question P → Prop) :
    {α : Type} → Act P α → State P → Question P → Prop
  | op {α : Type} {o : Op P α} {s a w} (asks : o.AsksAt F limit s a w) :
    Poses F limit inside (.op o) s ⟨o, a, limit, w⟩
  | nested {α : Type} {o : Op P α} {s a w q} (asks : o.AsksAt F limit s a w)
      (nested : inside a w q) : Poses F limit inside (.op o) s q
  | first {α β : Type} {x : Act P β} {f : β → Act P α} {s q} (first : Poses F limit inside x s q) :
    Poses F limit inside (.bind x f) s q
  | next {α β : Type} {x : Act P β} {f : β → Act P α} {s b t q}
      (ran : x.run ((System.ofPrograms F).foreign limit) s = (.value b, t))
      (next : Poses F limit inside (f b) t q) : Poses F limit inside (.bind x f) s q
  | attempt {α : Type} {x : Act P α} {s q} (tried : Poses F limit inside x s q) :
    Poses F limit inside (.attempt x) s q

namespace System

/-- A program, with foreign code nested less than `limit` deep, puts a question. -/
def Poses (F : Foreign P (Act P)) :
    Nat → {α : Type} → Act P α → State P → Question P → Prop
  | 0, _, _, _, _ => False
  | limit + 1, _, a, s, q =>
    a.Poses F limit (fun ask w =>
      Poses F limit (ask.body F.host).program (ask.entered F.host w)) s q

/-- One of the programs that run one after another puts a question. -/
inductive TurnsPose (F : Foreign P (Act P)) (limit : Nat) :
    List (ThreadId × Act P Unit) → State P → Question P → Prop
  | now {thread a rest s q} (poses : Poses F limit a { s with thread := thread } q) :
    TurnsPose F limit ((thread, a) :: rest) s q
  | later {thread a rest s out t q}
      (ran : (ofPrograms F).exec limit a { s with thread := thread } = (out, t))
      (back : ∀ w, out ≠ .halt w) (later : TurnsPose F limit rest t q) :
    TurnsPose F limit ((thread, a) :: rest) s q

end System

/-! ### Origins -/

/-- Where a call on the host comes from, or a token that one gave, by what happened before: an
operation asks for what is its own, or the host answers such a question. -/
inductive Origin (F : Foreign P (Act P)) (posed : Question P → Prop)
    (before : List (Happening P)) : HostCall P → Prop
  | asked {q} (put : posed q) (own : q.op.MayAsk q.ask) (now : q.state.history = before) :
    Origin F posed before (q.ask.body F.host).call
  | found {q token} (put : posed q) (own : q.op.MayAsk q.ask)
      (now : (q.ask.answered F q.limit q.state).2.history = before)
      (gives : (q.ask.body F.host).token? (q.ask.answered F q.limit q.state).1 = some token) :
    Origin F posed before token

/-- What was put on record since a certain moment has its origin in the questions of a run. -/
inductive Explained (F : Foreign P (Act P)) (posed : Question P → Prop)
    (since : List (Happening P)) : List (Happening P) → Prop
  | nothing : Explained F posed since since
  | other {e r} (earlier : Explained F posed since r) (other : ∀ c, e ≠ Happening.host c) :
    Explained F posed since (e :: r)
  | host {c r} (earlier : Explained F posed since r) (origin : Origin F posed r.reverse c) :
    Explained F posed since (Happening.host c :: r)

namespace Explained

variable {F : Foreign P (Act P)} {posed : Question P → Prop} {r r' r'' : List (Happening P)}
  {s t : State P}

theorem trans (first : Explained F posed r r') (second : Explained F posed r' r'') :
    Explained F posed r r'' := by
  induction second with
  | nothing => exact first
  | other _ other ih => exact .other ih other
  | host _ origin ih => exact .host ih origin

theorem quiet (between : Quiet s t) : Explained F posed s.record t.record := by
  obtain ⟨remarks, -, record⟩ := between.record
  rw [record]
  clear record
  induction remarks with
  | nil => exact .nothing
  | cons d remarks ih => exact .other ih fun _ => nofun

theorem does {d : Deed P} (does : d.Does s t) : Explained F posed s.record t.record := by
  cases does with
  | reported => exact .other .nothing fun _ => nofun
  | _ => exact .nothing

/-- A question explains the call, and the token that comes of it. -/
theorem answer {o : Op P α} {a : Ask P} {limit : Nat} {w : State P}
    (asked : posed ⟨o, a, limit, w⟩) (own : o.MayAsk a)
    (inside : Explained F posed (a.entered F.host w).record (a.answered F limit w).2.record) :
    Explained F posed w.record (a.after F limit w).record := by
  have entered : Explained F posed w.record (a.entered F.host w).record :=
    .host .nothing (.asked asked own rfl)
  have back := entered.trans inside
  rw [Ask.after_record]
  rcases gives : (a.body F.host).token? (a.answered F limit w).1 with _ | token
  · exact back
  · exact .host back (.found asked own rfl gives)

/-- The origin of a call in a record that is all explained. -/
theorem origin {c : HostCall P} (h : Explained F posed [] (r' ++ .host c :: r)) :
    Origin F posed r.reverse c := by
  induction r' with
  | nil =>
    cases h with
    | other _ other => exact (other c rfl).elim
    | host _ origin => exact origin
  | cons e r' ih =>
    cases h with
    | other earlier _ => exact ih earlier
    | host earlier _ => exact ih earlier

/-- What is explained of the record is no matter of handles, memory and reports. -/
theorem inert (F : Foreign P (Act P)) (posed : Question P → Prop) (r : List (Happening P)) :
    Inert (fun s => Explained F posed r s.record) fun s => Explained F posed r s.record where
  memory _ h := h
  report _ h := .other h fun _ => nofun
  halts _ h := h
  handles _ h := h
  sides _ _ h := h

end Explained

/-! ### Runs -/

section

variable {F : Foreign P (Act P)} {limit : Nat} {posed : Question P → Prop}

/-- The rest of a call of the interface, from any state on its way. -/
theorem Trail.explained {o : Op P α} {s w t : State P} {ds es : List (Deed P)}
    (rest : Trail ((System.ofPrograms F).foreign limit) w es t)
    (way : Trail ((System.ofPrograms F).foreign limit) s ds w)
    (ends : (o.run ((System.ofPrograms F).foreign limit) s).2 = t) (own : o.AsksOwn es)
    (answer : ∀ a v, o.AsksAt F limit s a v → o.MayAsk a →
      Explained F posed v.record (a.after F limit v).record) :
    Explained F posed w.record t.record := by
  induction rest generalizing ds with
  | here => exact .nothing
  | quiet between rest ih =>
    exact (Explained.quiet between).trans (ih (way.append (.quiet between .here)) ends own)
  | @asked v u t es a came run rest ih =>
    have after : u = a.after F limit v := by rw [← Ask.run_state, run]
    have asks : o.AsksAt F limit s a v := ⟨ds, es, way, by rwa [← after, ends]⟩
    have answered := answer a v asks (own a came List.mem_cons_self)
    rw [← after] at answered
    exact answered.trans (ih (way.append (.asked run .here)) ends
      fun a came mem => own a came (List.mem_cons_of_mem _ mem))
  | own does rest ih =>
    exact (Explained.does does).trans (ih (way.append (.own does .here)) ends
      fun a came mem => own a came (List.mem_cons_of_mem _ mem))

/-- A program of dynamic operations puts all that is recorded of calls on the host, if that is so of
the programs of the host. -/
theorem Act.Within.explained {inside : Ask P → State P → Question P → Prop}
    (answers : ∀ a w {posed : Question P → Prop}, (∀ q, inside a w q → posed q) →
      Explained F posed (a.entered F.host w).record (a.answered F limit w).2.record)
    {a : Act P α} (h : a.Within (.dynamic P)) {s : State P}
    (poses : ∀ q, a.Poses F limit inside s q → posed q) :
    Explained F posed s.record (a.run ((System.ofPrograms F).foreign limit) s).2.record := by
  induction h generalizing s with
  | pure a => exact .nothing
  | panic _ m => exact .nothing
  | note _ n => exact .other .nothing fun _ => nofun
  | world _ => exact .nothing
  | @bind _ _ x f hx hf ihx ihf =>
    have first := ihx fun q asked => poses q (.first asked)
    change Explained F posed s.record ((x.run _ >>= fun b => (f b).run _) s).2.record
    rw [Exec.run_bind]
    rcases ran : x.run ((System.ofPrograms F).foreign limit) s with ⟨b | m | w, t⟩ <;>
      rw [ran] at first
    · exact first.trans (ihf b fun q asked => poses q (.next ran asked))
    · exact first
    · exact first
  | @attempt _ x hx ih =>
    have tried := ih fun q asked => poses q (.attempt asked)
    change Explained F posed s.record ((x.run _).attempt s).2.record
    unfold Exec.attempt
    rcases ran : x.run ((System.ofPrograms F).foreign limit) s with ⟨b | m | w, t⟩ <;>
      rw [ran] at tried <;> exact tried
  | @op _ o hostly =>
    by_cases about : o.key?.isSome = true
    · obtain ⟨ds, trail, own⟩ := o.run_asks ((System.ofPrograms F).foreign limit) about s
      refine trail.explained .here rfl own fun a w asks may => ?_
      exact .answer (poses _ (.op asks)) may
        (answers a w fun q asked => poses q (.nested asks asked))
    -- whatever is about no member calls no host
    have withstands := (Explained.inert F posed s.record).withstands
      ((System.ofPrograms F).foreign limit)
    have kept : Exec.Keeps (fun t => Explained F posed s.record t.record)
        (fun t => Explained F posed s.record t.record)
        (o.run ((System.ofPrograms F).foreign limit)) := by
      by_cases plain : o.isPlain = true
      · exact withstands.plain_keeps o plain
      cases o with
      | clearMembers => exact withstands.clearMembers fun _ h => h
      | memberCounts => exact Exec.Triple.gets fun _ h => h
      | _ => simp_all [Op.isHostly, Op.isDynamic, Permit.dynamic]
    exact Exec.Triple.ends (kept.of_imp fun t here => here ▸ .nothing)
  | clear clears => exact clears.elim

namespace System

theorem exec_explained (lookups : F.LookupsWithin (.dynamic P))
    (bodies : F.BodiesWithin (.dynamic P)) {a : Act P α} (h : a.Within (.dynamic P)) {s : State P}
    (poses : ∀ q, Poses F limit a s q → posed q) :
    Explained F posed s.record ((ofPrograms F).exec limit a s).2.record := by
  induction limit generalizing α s posed with
  | zero => exact .nothing
  | succ limit ih => exact h.explained (fun a _ => ih (a.body_within lookups bodies)) poses

theorem runTurns_explained (lookups : F.LookupsWithin (.dynamic P))
    (bodies : F.BodiesWithin (.dynamic P)) {turns : List (ThreadId × Act P Unit)}
    (each : ∀ turn ∈ turns, turn.2.Within (.dynamic P)) {s : State P}
    (poses : ∀ q, TurnsPose F limit turns s q → posed q) :
    Explained F posed s.record ((ofPrograms F).runTurns limit turns s).record := by
  induction turns generalizing s with
  | nil => exact .nothing
  | cons turn rest ih =>
    obtain ⟨thread, a⟩ := turn
    have within : a.Within (.dynamic P) := each _ List.mem_cons_self
    have first : Explained F posed s.record
        ((ofPrograms F).exec limit a { s with thread := thread }).2.record :=
      exec_explained lookups bodies within fun q asked => poses q (.now asked)
    have later {out : Outcome Unit} {t : State P}
        (ran : (ofPrograms F).exec limit a { s with thread := thread } = (out, t))
        (back : ∀ w, out ≠ .halt w) :
        Explained F posed t.record ((ofPrograms F).runTurns limit rest t).record :=
      ih (fun turn mem => each turn (List.mem_cons_of_mem _ mem))
        fun q asked => poses q (.later ran back asked)
    unfold runTurns
    rcases ran : (ofPrograms F).exec limit a { s with thread := thread } with ⟨r | m | w, t⟩ <;>
      rw [ran] at first
    · exact first.trans (later ran (by simp))
    · exact first.trans (later ran (by simp))
    · exact first

end System
end

/-! ### Every call on the host -/

namespace System

/-- Every call that a bridge makes on the host with a member is well typed, and its tokens were
given by the host for the names of this call, earlier in the same history. These are the names of
the operation at hand: over any foreign code, from any state, an operation asks for what is its own
and for nothing else; and in a run of dynamic operations, nested to any depth, every call on the
host is such a question of one of them, and every token is the answer to one. -/
theorem hostCall_proper (F : Foreign P (Act P)) (limit : Nat)
    (turns : List (ThreadId × Act P Unit)) {s : State P} (new : s.bridge.members = {})
    (unrecorded : s.record = []) {before after : List (Happening P)} {c : HostCall P}
    (called : ((ofPrograms F).runTurns limit turns s).history = before ++ .host c :: after) :
    c.Proper (fun name type => .host (.typeFound name type) ∈ before)
        (fun key member => .host (.memberFound key member) ∈ before) ∧
      (∀ (G : Foreign P (Exec P)) {β : Type} (o : Op P β) t, o.key?.isSome = true →
        Tells G t [] (o.run G) fun _ => o.AsksOwn) ∧
      (F.LookupsWithin (.dynamic P) → F.BodiesWithin (.dynamic P) →
        (∀ turn ∈ turns, turn.2.Within (.dynamic P)) →
        Origin F (TurnsPose F limit turns s) before c) := by
  refine ⟨history_proper F limit turns new unrecorded called,
    fun G _ o t about => o.run_asks G about t, fun lookups bodies each => ?_⟩
  have explained : Explained F (TurnsPose F limit turns s) s.record
      ((ofPrograms F).runTurns limit turns s).record :=
    runTurns_explained lookups bodies each fun _ => id
  rw [unrecorded, record_split called] at explained
  have origin := explained.origin
  rwa [List.reverse_reverse] at origin

end System

/-- A construction in the plain world, and the look-ups that come before it. -/
theorem System.hostCall_proper_plain :
    let system := ofPrograms Plain.idle
    let key : MemberKey := ⟨"Point", "<init>", "(I)V", .constructor⟩
    let before : List (Happening Plain.platform) := [.host (.resolveType "Point"),
      .host (.typeFound "Point" "Point"), .host (.resolveMember "Point" key),
      .host (.memberFound key key)]
    let call : HostCall Plain.platform := .construct key "Point" key [.int 7]
    Plain.start.bridge.members = {} ∧ Plain.start.record = [] ∧
      (system.runTurns 2 [(0, Plain.creation)] Plain.start).history = before ++ .host call :: [] ∧
      Plain.idle.LookupsWithin (.dynamic _) ∧ Plain.idle.BodiesWithin (.dynamic _) ∧
      Plain.creation.Within (.dynamic _) ∧
      call.Proper (fun name type => .host (.typeFound name type) ∈ before)
        (fun key member => .host (.memberFound key member) ∈ before) ∧
      Origin Plain.idle (TurnsPose Plain.idle 2 [(0, Plain.creation)] Plain.start) before call := by
  intro system key before call
  have history : (system.runTurns 2 [(0, Plain.creation)] Plain.start).history =
      before ++ .host call :: [] := rfl
  have lookups : Plain.idle.LookupsWithin (.dynamic _) := ⟨fun _ => .pure _, fun _ _ => .pure _⟩
  have bodies : Plain.idle.BodiesWithin (.dynamic _) :=
    ⟨fun _ _ _ => .pure _, fun _ _ _ _ => .pure _, fun _ _ _ => .world trivial,
      fun _ _ _ => .world trivial⟩
  have creation : Plain.creation.Within (.dynamic _) := .bind (.op rfl) fun _ => .pure _
  obtain ⟨proper, -, origin⟩ := hostCall_proper Plain.idle 2 [(0, Plain.creation)] rfl rfl history
  exact ⟨rfl, rfl, history, lookups, bodies, creation, proper,
    origin lookups bodies (List.forall_mem_singleton.mpr creation)⟩

end HostBridge
