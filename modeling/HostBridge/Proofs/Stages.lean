import HostBridge.Bridge.Program
import HostBridge.Proofs.CallStages
import HostBridge.Proofs.Deeds

/-!
The stages of a dynamic operation. First it is checked against its descriptor, then the type is
looked up, then the receiver, then the member, and only then the member is used. What stops an
operation stops it where it is, and what has come about until then is the deeds of the stages
before.
-/
namespace HostBridge

variable {P : Platform} {α β : Type}

/-! ### Operations -/

/-- The object that a caller gets of a result under a new handle. -/
def Call.kept? (requested : ValueKind) (v : HostValue P.Object) : Option P.Object :=
  if requested = .void then none else v.reference?

/-- The dynamic operations that report, by the type of their answers. -/
inductive Operation : Type → Type where
  | create (className signature : String) (words : List Word) : Operation Handle
  | call (target : Call.Target) (className name signature : String) (requested : ValueKind)
      (words : List Word) : Operation Word
  | get (target : Call.Target) (className name descriptor : String) (requested : ValueKind) :
      Operation Word
  | set (target : Call.Target) (className name descriptor : String) (requested : ValueKind)
      (w : Word) : Operation Unit

namespace Operation

/-- The operation as a call of the interface. -/
def op : Operation α → Op P α
  | create className signature words => .createObject className signature words
  | call target className name signature requested words =>
    .callMethod target className name signature requested words
  | get target className name descriptor requested =>
    .getField target className name descriptor requested
  | set target className name descriptor requested w =>
    .setField target className name descriptor requested w

/-- The operation before its failure is reported. -/
def attempt (F : Foreign P (Exec P)) : Operation α → Call P α
  | create className signature words => Call.construct F className signature words
  | call target className name signature requested words =>
    Call.invoke F target className name signature requested words
  | get target className name descriptor requested =>
    Call.read F target className name descriptor requested
  | set target className name descriptor requested w =>
    Call.write F target className name descriptor requested w

/-- The answer of an operation that failed. -/
def zero : Operation α → α
  | create .. => .null
  | call .. => .zero
  | get .. => .zero
  | set .. => ()

def name : Operation α → CallName
  | create .. => .createObject
  | call (.instance _) .. => .callMethod
  | call .static .. => .callStaticMethod
  | get (.instance _) .. => .getField
  | get .static .. => .getStaticField
  | set (.instance _) .. => .setField
  | set .static .. => .setStaticField

/-- The member that an operation is about. -/
def key : Operation α → MemberKey
  | create className signature _ =>
    ⟨className, Call.constructorName, signature, .constructor⟩
  | call target className name signature _ _ => ⟨className, name, signature, target.methodKind⟩
  | get target className name descriptor _ => ⟨className, name, descriptor, target.fieldKind⟩
  | set target className name descriptor _ _ => ⟨className, name, descriptor, target.fieldKind⟩

/-- What is reported of a failure. -/
def failure (o : Operation α) (e : CallError) : Diagnostic :=
  match o with
  | create className signature _ => .createFailed className signature e
  | o => .callFailed o.name o.key.className o.key.name e

def target : Operation α → Call.Target
  | create .. => .static
  | call target .. => target
  | get target .. => target
  | set target .. => target

/-- Why an operation is not tried: its descriptor is malformed, it constructs something that is
returned, or what is asked for does not accept what is declared. -/
def refusal? : Operation α → Option CallError
  | create _ signature _ =>
    match Descriptor.parseMethod signature with
    | .error e => some (.descriptor e)
    | .ok d => if d.result ≠ .void then some (.constructorReturn d.result) else none
  | call _ _ _ signature requested _ =>
    match Descriptor.parseMethod signature with
    | .error e => some (.descriptor e)
    | .ok d =>
      if requested.accepts d.result then none else some (.returnMismatch requested d.result)
  | get _ _ _ descriptor requested =>
    match Descriptor.parseField descriptor with
    | .error e => some (.descriptor e)
    | .ok declared =>
      if requested.accepts declared then none else some (.returnMismatch requested declared)
  | set _ _ _ descriptor requested _ =>
    match Descriptor.parseField descriptor with
    | .error e => some (.descriptor e)
    | .ok declared =>
      if requested = .void ∨ !requested.accepts declared then
        some (.returnMismatch requested declared)
      else none

/-- The use of a member that an operation makes. -/
def Uses (o : Operation α) (c : P.Class) (r : Receiver P.Object P.Class) (m : P.Member)
    (a : Ask P) : Prop :=
  match o with
  | create .. => ∃ args, a = .construct o.key c m args
  | call .. => ∃ kind args, a = .invoke o.key r m kind args
  | get .. => ∃ kind, a = .readField o.key r m kind
  | set .. => ∃ v, a = .writeField o.key r m v

theorem Uses.isLookup_eq {o : Operation α} {c : P.Class} {r : Receiver P.Object P.Class}
    {m : P.Member} {a : Ask P} (uses : o.Uses c r m a) : a.isLookup = false := by
  cases o with
  | create => obtain ⟨args, rfl⟩ := uses; rfl
  | call => obtain ⟨kind, args, rfl⟩ := uses; rfl
  | get => obtain ⟨kind, rfl⟩ := uses; rfl
  | set => obtain ⟨v, rfl⟩ := uses; rfl

/-- The object that an operation keeps of an answer of the host. -/
def kept : Operation α → HostReply P → Option P.Object
  | create .., .object o => o
  | call _ _ _ _ requested _, .value v => Call.kept? requested v
  | get _ _ _ _ requested, .value v => Call.kept? requested v
  | _, _ => none

/-- The answer that gives a handle to the caller. -/
def ofHandle (h : Handle) : Operation α → α
  | create .. => h
  | call .. => .ofHandle h
  | get .. => .ofHandle h
  | set .. => ()

/-- The operation as it runs is its attempt, and the report of a failure. -/
theorem run_eq (F : Foreign P (Exec P)) (o : Operation α) :
    (o.op (P := P)).run F = (do
      match ← (o.attempt F).run with
      | .ok a => return a
      | .error e =>
        Exec.report (o.failure e)
        return o.zero) := by
  cases o with
  | create className signature words =>
    exact bind_congr fun r => by cases r <;> rfl
  | call target className name signature requested words =>
    cases target <;> exact bind_congr fun r => by cases r <;> rfl
  | get target className name descriptor requested =>
    cases target <;> exact bind_congr fun r => by cases r <;> rfl
  | set target className name descriptor requested w =>
    change Dynamic.setField F target className name descriptor requested w = _
    unfold Dynamic.setField Dynamic.settleWrite Dynamic.settle
    have discarded (x : Exec P Word) : discard x = (x >>= fun _ => pure ()) := rfl
    rw [discarded, ExceptT.run_bind, bind_assoc, bind_assoc]
    refine bind_congr fun r => ?_
    cases r <;> cases target <;> rfl

end Operation

/-! ### Stages -/

/-- An answer that stops an operation, and how the operation ends. -/
inductive Stops : Outcome (Except HostError (HostReply P)) → Outcome (Except CallError α) → Prop
  | failed (e) : Stops (.value (.error e)) (.value (.error (.host e)))
  | panicked (m) : Stops (.panic m) (.panic m)
  | halted (w) : Stops (.halt w) (.halt w)

/-- Whether a deed prepares the use of a member: it looks something up or learns it. -/
def Deed.isPrelude : Deed P → Bool
  | asked a _ => a.isLookup
  | learntType _ _ | learntMember _ _ | lookedUp _ _ => true
  | _ => false

/-- Whether a deed leaves the table of handles alone, unless what the host is asked changes it. -/
def Deed.KeepsHandles : Deed P → Prop
  | stored _ _ | released _ _ | releasedAll _ => False
  | _ => True

theorem Deed.keepsHandles_of_prelude (d : Deed P) (prelude : d.isPrelude = true) :
    d.KeepsHandles := by
  cases d <;> trivial

theorem Typed.prelude {name : String} {c : P.Class} {ds : List (Deed P)}
    (typed : Typed name c ds) : ∀ d ∈ ds, d.isPrelude = true := by
  cases typed with
  | known => exact List.forall_mem_nil _
  | found c => exact List.forall_mem_cons.mpr ⟨rfl, List.forall_mem_singleton.mpr rfl⟩

theorem Membered.prelude {c : P.Class} {key : MemberKey} {m : P.Member} {ds : List (Deed P)}
    (membered : Membered c key m ds) : ∀ d ∈ ds, d.isPrelude = true := by
  cases membered with
  | known => exact List.forall_mem_nil _
  | found m => exact List.forall_mem_cons.mpr ⟨rfl, List.forall_mem_singleton.mpr rfl⟩

namespace Operation

/-- The deeds up to the receiver, which is there. -/
inductive ToReceiver (o : Operation α) :
    P.Class → Receiver P.Object P.Class → List (Deed P) → Prop
  | static {c ds} (typed : Typed o.key.className c ds) (on : o.target = .static) :
    ToReceiver o c (.static c) ds
  | instance {c ds h x} (typed : Typed o.key.className c ds) (on : o.target = .instance h) :
    ToReceiver o c (.instance x) (ds ++ [.lookedUp h (some x)])

/-- The deeds up to the member. -/
inductive ToMember (o : Operation α) (c : P.Class) (r : Receiver P.Object P.Class) (m : P.Member) :
    List (Deed P) → Prop
  | reached {ds es} (received : ToReceiver o c r ds) (membered : Membered c o.key m es) :
    ToMember o c r m (ds ++ es)

theorem ToReceiver.prelude {o : Operation α} {c : P.Class} {r : Receiver P.Object P.Class}
    {ds : List (Deed P)} (received : ToReceiver o c r ds) : ∀ d ∈ ds, d.isPrelude = true := by
  cases received with
  | static typed on => exact typed.prelude
  | «instance» typed on =>
    exact List.forall_mem_append.mpr ⟨typed.prelude, List.forall_mem_singleton.mpr rfl⟩

theorem ToMember.prelude {o : Operation α} {c : P.Class} {r : Receiver P.Object P.Class}
    {m : P.Member} {ds : List (Deed P)} (reached : ToMember o c r m ds) :
    ∀ d ∈ ds, d.isPrelude = true := by
  obtain ⟨received, membered⟩ := reached
  exact List.forall_mem_append.mpr ⟨received.prelude, membered.prelude⟩

/-- How an attempt comes out, by the stage at which it ends. A halt at an address that names no
buffer belongs to the words of the operation. -/
inductive Attempted (o : Operation α) : Outcome (Except CallError α) → List (Deed P) → Prop
  | refused {e} (why : o.refusal? = some e) : Attempted o (.value (.error e)) []
  | atType {came out} (stops : Stops came out) :
    Attempted o out [.asked (.type o.key.className) came]
  | wildWord {c ds a} (typed : Typed o.key.className c ds) :
    Attempted o (.halt (.wildPointer a)) ds
  | noReceiver {c ds h} (typed : Typed o.key.className c ds) (on : o.target = .instance h) :
    Attempted o (.value (.error (.nullReceiver h))) (ds ++ [.lookedUp h none])
  | atMember {c r ds came out} (received : ToReceiver o c r ds) (stops : Stops came out) :
    Attempted o out (ds ++ [.asked (.member c o.key) came])
  | wildArgument {c r m ds a} (reached : ToMember o c r m ds) :
    Attempted o (.halt (.wildPointer a)) ds
  | atUse {c r m ds a came out} (reached : ToMember o c r m ds) (uses : o.Uses c r m a)
      (stops : Stops came out) : Attempted o out (ds ++ [.asked a came])
  | done {c r m ds a reply b} (reached : ToMember o c r m ds) (uses : o.Uses c r m a)
      (none : o.kept reply = none) :
    Attempted o (.value (.ok b)) (ds ++ [.asked a (.value (.ok reply))])
  | kept {c r m ds a reply x h} (reached : ToMember o c r m ds) (uses : o.Uses c r m a)
      (some : o.kept reply = some x) :
    Attempted o (.value (.ok (o.ofHandle h)))
      (ds ++ [.asked a (.value (.ok reply))] ++ [.stored x h])

end Operation

/-! ### Where references come from -/

/-- The object that an answer of the host gives. -/
def HostReply.object? : HostReply P → Option P.Object
  | object o => o
  | value v => v.reference?
  | _ => none

/-- Whether the host gave what is stored or learnt, when it was asked for it. -/
def Deed.GivenIn (ds : List (Deed P)) : Deed P → Prop
  | stored x _ => ∃ a reply, .asked a (.value (.ok reply)) ∈ ds ∧ reply.object? = some x
  | learntType name c => .asked (.type name) (.value (.ok (.type c))) ∈ ds
  | _ => True

/-- The host gave everything that is stored or learnt. -/
def FromHost (ds : List (Deed P)) : Prop := ∀ d ∈ ds, d.GivenIn ds

theorem Deed.GivenIn.mono {ds es : List (Deed P)} {d : Deed P} (given : d.GivenIn ds)
    (more : ds ⊆ es) : d.GivenIn es := by
  cases d with
  | stored x h =>
    obtain ⟨a, reply, asked, object⟩ := given
    exact ⟨a, reply, more asked, object⟩
  | learntType name c => exact more given
  | _ => trivial

namespace FromHost

variable {ds es : List (Deed P)}

theorem nil : FromHost ([] : List (Deed P)) := List.forall_mem_nil _

theorem append (first : FromHost ds) (second : FromHost es) : FromHost (ds ++ es) :=
  List.forall_mem_append.mpr
    ⟨fun d mem => (first d mem).mono (List.subset_append_left ds es),
      fun d mem => (second d mem).mono (List.subset_append_right ds es)⟩

theorem concat {d : Deed P} (first : FromHost ds) (given : d.GivenIn (ds ++ [d])) :
    FromHost (ds ++ [d]) :=
  List.forall_mem_append.mpr
    ⟨fun d mem => (first d mem).mono (List.subset_append_left ds _),
      List.forall_mem_singleton.mpr given⟩

theorem asked {a : Ask P} {came : Outcome (Except HostError (HostReply P))}
    (first : FromHost ds) : FromHost (ds ++ [.asked a came]) :=
  first.concat trivial

end FromHost

theorem Typed.fromHost {name : String} {c : P.Class} {ds : List (Deed P)}
    (typed : Typed name c ds) : FromHost ds := by
  cases typed with
  | known => exact .nil
  | found c =>
    exact List.forall_mem_cons.mpr ⟨trivial, List.forall_mem_singleton.mpr List.mem_cons_self⟩

theorem Membered.fromHost {c : P.Class} {key : MemberKey} {m : P.Member} {ds : List (Deed P)}
    (membered : Membered c key m ds) : FromHost ds := by
  cases membered with
  | known => exact .nil
  | found m => exact List.forall_mem_cons.mpr ⟨trivial, List.forall_mem_singleton.mpr trivial⟩

namespace Operation

variable {o : Operation α} {c : P.Class} {r : Receiver P.Object P.Class} {ds : List (Deed P)}

theorem ToReceiver.fromHost (received : ToReceiver o c r ds) : FromHost ds := by
  cases received with
  | static typed on => exact typed.fromHost
  | «instance» typed on => exact typed.fromHost.concat trivial

theorem ToMember.fromHost {m : P.Member} (reached : ToMember o c r m ds) : FromHost ds := by
  obtain ⟨received, membered⟩ := reached
  exact received.fromHost.append membered.fromHost

theorem object?_of_kept {reply : HostReply P} {x : P.Object} (kept : o.kept reply = some x) :
    reply.object? = some x := by
  have value {requested : ValueKind} {v : HostValue P.Object}
      (kept : Call.kept? requested v = some x) : v.reference? = some x := by
    unfold Call.kept? at kept
    split at kept
    · cases kept
    · exact kept
  cases o <;> cases reply <;> first | exact kept | exact value kept | cases kept

/-- An attempt stores and learns only what the host gave. -/
theorem Attempted.fromHost {out : Outcome (Except CallError α)} (h : Attempted o out ds) :
    FromHost ds := by
  cases h with
  | refused why => exact .nil
  | atType stops => exact FromHost.nil.asked
  | wildWord typed => exact typed.fromHost
  | noReceiver typed on => exact typed.fromHost.concat trivial
  | atMember received stops => exact received.fromHost.asked
  | wildArgument reached => exact reached.fromHost
  | atUse reached uses stops => exact reached.fromHost.asked
  | done reached uses none => exact reached.fromHost.asked
  | @kept _ _ _ _ a reply _ _ reached uses some =>
    refine reached.fromHost.asked.concat ⟨a, reply, ?_, object?_of_kept some⟩
    exact List.mem_append_left _ (List.mem_append_right _ List.mem_cons_self)

end Operation

namespace Call

variable {F : Foreign P (Exec P)} {s : State P} {before : List (Deed P)}
  {post : Outcome (Except CallError β) → List (Deed P) → Prop}

theorem run_ofHost_bind (x : Exec P (Except HostError α)) (k : α → Call P β) :
    (ofHost x >>= k).run = x >>= fun
      | .ok a => (k a).run
      | .error e => pure (.error (.host e)) := by
  rw [ExceptT.run_bind]
  change (x >>= fun r => pure (r.mapError CallError.host)) >>= _ = _
  rw [bind_assoc]
  congr 1
  funext r
  cases r <;> rfl

theorem run_lift_bind (x : Exec P α) (k : α → Call P β) :
    ((liftM x : Call P α) >>= k).run = x >>= fun a => (k a).run := by
  rw [ExceptT.run_bind]
  change (x >>= fun a => pure (Except.ok a)) >>= _ = _
  rw [bind_assoc]
  rfl

/-- Goes on with the answer of the host, if it gives one. -/
theorem tells_ofHost {x : Exec P (Except HostError α)} {a : Ask P}
    {answer : α → List (Deed P) → Prop} {k : α → Call P β} (hx : Tells F s [] x (Answered a answer))
    (stops : ∀ came out, Stops came out → post out (before ++ [.asked a came]))
    (goes : ∀ b t ds, answer b ds → Tells F t (before ++ ds) (k b).run post) :
    Tells F s before (ofHost x >>= k).run post := by
  rw [run_ofHost_bind]
  refine hx.bind (fun r t ds came => ?_) (fun m ds came => ?_) fun w ds came => ?_
  · cases came with
    | answer h => exact goes _ t ds h
    | failed e => exact .pure (stops _ _ (.failed e))
  · cases came with
    | panicked m => exact stops _ _ (.panicked m)
  · cases came with
    | halted w => exact stops _ _ (.halted w)

/-- Goes on with what was read quietly. -/
theorem tells_reads {x : Exec P α} {k : α → Call P β} (hx : Reads x)
    (wild : ∀ a, post (.halt (.wildPointer a)) before)
    (goes : ∀ a t, Tells F t before (k a).run post) :
    Tells F s before ((liftM x : Call P α) >>= k).run post := by
  rw [run_lift_bind]
  exact .after_reads hx wild goes

theorem tells_withType {name : String} {body : P.Class → Call P β}
    (stops : ∀ came out, Stops came out → post out (before ++ [.asked (.type name) came]))
    (goes : ∀ c t ds, Typed name c ds → Tells F t (before ++ ds) (body c).run post) :
    Tells F s before (withType F name body).run post :=
  tells_ofHost (Members.type_tells F s name) stops fun c t ds typed =>
    (goes c t ds typed).ensure (Hushed.upkeep _)

theorem tells_withReceiver {target : Target} {type : P.Class}
    {body : Receiver P.Object P.Class → Call P β}
    (static : target = .static → ∀ t, Tells F t before (body (.static type)).run post)
    (dead : ∀ h, target = .instance h →
      post (.value (.error (.nullReceiver h))) (before ++ [.lookedUp h none]))
    (live : ∀ h x t, target = .instance h →
      Tells F t (before ++ [.lookedUp h (some x)]) (body (.instance x)).run post) :
    Tells F s before (withReceiver F target type body).run post := by
  unfold withReceiver
  cases target with
  | static => exact static rfl s
  | «instance» h =>
    obtain ⟨t, run, quiet⟩ := Objects.lookup_quiet F h s
    rw [run_lift_bind]
    refine .after_deed (.lookedUp (h := h)) quiet run ?_
    rcases (s.bridge.handles.get h).1 with _ | x
    · exact .pure (dead h rfl)
    · exact (live h x t rfl).ensure (Hushed.upkeep _)

theorem tells_withArgs {params : List ValueKind} {words : List Word}
    {body : List (HostValue P.Object) → Call P β}
    (wild : ∀ a, post (.halt (.wildPointer a)) before)
    (goes : ∀ args t, Tells F t before (body args).run post) :
    Tells F s before (withArgs F params words body).run post :=
  tells_reads (Reads.decodeArgs F params words) wild fun args t =>
    (goes args t).ensure (Hushed.dropValues F args)

/-- Goes on with the result of a check. -/
theorem tells_check {r : Except CallError α} {k : α → Call P β}
    (error : ∀ e, r = .error e → post (.value (.error e)) before)
    (ok : ∀ a, r = .ok a → Tells F s before (k a).run post) :
    Tells F s before ((ExceptT.mk (pure r) : Call P α) >>= k).run post := by
  cases r with
  | error e => exact .pure (error e rfl)
  | ok a => exact ok a rfl

theorem tells_descriptor {r : Except DescriptorError α} {k : α → Call P β}
    (error : ∀ e, r = .error e → post (.value (.error (.descriptor e))) before)
    (ok : ∀ a, r = .ok a → Tells F s before (k a).run post) :
    Tells F s before (ofDescriptor r >>= k).run post := by
  cases r with
  | error e => exact .pure (error e rfl)
  | ok a => exact ok a rfl

/-- A lift never fails. -/
theorem tells_lift {x : Exec P β} (hx : Tells F s before x fun out ds => post (out.map .ok) ds) :
    Tells F s before (liftM x : Call P β).run post := by
  have run : (liftM x : Call P β).run = Except.ok <$> x := rfl
  unfold Tells
  rw [run, Exec.run_map]
  exact hx

/-- A store keeps an object, and nothing for the null object. -/
theorem tells_store {o : Option P.Object} {k : Handle → Exec P β}
    {post : Outcome β → List (Deed P) → Prop}
    (null : o = none → Tells F s before (k .null) post)
    (object : ∀ x h t, o = some x → Tells F t (before ++ [.stored x h]) (k h) post) :
    Tells F s before (Objects.store F o >>= k) post := by
  cases o with
  | none => exact .after_quiet (t := s) rfl .refl (null rfl)
  | some x =>
    obtain ⟨t, run, quiet⟩ := Objects.store_quiet F x s
    exact .after_deed .stored quiet run (object x _ t rfl)

/-- The word of a result, which may be a new handle. -/
theorem tells_encode {requested : ValueKind} {v : HostValue P.Object}
    {post : Outcome Word → List (Deed P) → Prop}
    (done : kept? requested v = none → ∀ w, post (.value w) before)
    (kept : ∀ x h, kept? requested v = some x →
      post (.value (.ofHandle h)) (before ++ [.stored x h])) :
    Tells F s before (encode F requested v) post := by
  unfold encode kept? at *
  split
  case isTrue void =>
    rw [if_pos void] at done
    exact .after_hushed (Hushed.dropValue F v) fun _ _ => .pure (done rfl _)
  case isFalse asked =>
    rw [if_neg asked] at done kept
    cases v with
    | string text =>
      cases text with
      | none => exact .pure (done rfl _)
      | some text => exact .after_hushed (Hushed.placeText text) fun _ _ => .pure (done rfl _)
    | object o =>
      refine tells_store (fun null => ?_) fun x h t same => ?_
      · subst null
        exact .pure (done rfl _)
      · subst same
        exact .pure (kept x h rfl)
    | _ => exact .pure (done rfl _)

end Call

namespace Operation

variable {F : Foreign P (Exec P)} (s : State P)

/-- Goes on with the receiver, whether it is the class or an object. -/
theorem tells_received {o : Operation α} {c : P.Class} {ds : List (Deed P)} {target : Call.Target}
    {body : Receiver P.Object P.Class → Call P α} (typed : Typed o.key.className c ds)
    (aimed : o.target = target)
    (use : ∀ r es t, ToReceiver o c r es → Tells F t es (body r).run (Attempted o)) :
    Tells F s ds (Call.withReceiver F target c body).run (Attempted o) :=
  Call.tells_withReceiver (fun on t => use _ _ t (.static typed (aimed.trans on)))
    (fun _ on => .noReceiver typed (aimed.trans on))
    fun _ _ t on => use _ _ t (.instance typed (aimed.trans on))

/-- Goes on with the member. -/
theorem tells_member {o : Operation α} {c : P.Class} {r : Receiver P.Object P.Class}
    {ds : List (Deed P)} {k : P.Member → Call P α} (received : ToReceiver o c r ds)
    (use : ∀ m es t, ToMember o c r m es → Tells F t es (k m).run (Attempted o)) :
    Tells F s ds (Call.ofHost (Members.member F c o.key) >>= k).run (Attempted o) :=
  Call.tells_ofHost (Members.member_tells F s c o.key) (fun _ _ => .atMember received)
    fun m t _ membered => use m _ t (.reached received membered)

/-- Goes on with the answer to a use. -/
theorem tells_use {o : Operation α} {c : P.Class} {r : Receiver P.Object P.Class} {m : P.Member}
    {ds : List (Deed P)} {x : Exec P (Except HostError β)} {a : Ask P} {f : β → HostReply P}
    {k : β → Call P α} (same : a.run F.host = Except.map f <$> x)
    (reached : ToMember o c r m ds) (uses : o.Uses c r m a)
    (goes : ∀ b t, Tells F t (ds ++ [.asked a (.value (.ok (f b)))]) (k b).run (Attempted o)) :
    Tells F s ds (Call.ofHost x >>= k).run (Attempted o) :=
  Call.tells_ofHost (Tells.asks same) (fun _ _ => .atUse reached uses) fun b t _ asked =>
    asked ▸ goes b t

/-! ### Attempts -/

theorem construct_tells (className signature : String) (words : List Word) :
    Tells F s [] (Call.construct F className signature words).run
      (Attempted (create className signature words)) := by
  let o := create className signature words
  refine Call.tells_descriptor (fun e parsed => ?_) fun d parsed => ?_
  · exact .refused (by simp only [refusal?, parsed])
  split
  case isTrue returns =>
    exact Tells.pure (.refused (by simp only [refusal?, parsed, if_pos returns]))
  case isFalse fits =>
  refine Call.tells_withType (fun _ _ => .atType) fun c t ds typed => ?_
  refine tells_member t (o := o) (.static typed rfl) fun m es t reached => ?_
  refine Call.tells_withArgs (fun _ => .wildArgument reached) fun args t => ?_
  have uses : o.Uses c (.static c) m (.construct o.key c m args) := ⟨args, rfl⟩
  refine tells_use t (f := .object) rfl reached uses fun x t => ?_
  refine Call.tells_lift ?_
  rw [← bind_pure (Objects.store F x)]
  refine Call.tells_store (fun null => ?_) fun y h t some => ?_
  · exact .pure (.done reached uses null)
  · exact .pure (.kept reached uses some)

theorem invoke_tells (target : Call.Target) (className name signature : String)
    (requested : ValueKind) (words : List Word) :
    Tells F s [] (Call.invoke F target className name signature requested words).run
      (Attempted (call target className name signature requested words)) := by
  let o := call target className name signature requested words
  refine Call.tells_descriptor (fun e parsed => ?_) fun d parsed => ?_
  · exact .refused (by simp only [refusal?, parsed])
  refine Call.tells_check (fun e refused => ?_) fun kind _ => ?_
  · obtain ⟨mismatch, rfl⟩ := Call.hostKind_error refused
    exact .refused (by simp only [refusal?, parsed, if_neg mismatch])
  refine Call.tells_withType (fun _ _ => .atType) fun c t ds typed => ?_
  refine tells_received t (o := o) typed rfl fun r es t received => ?_
  refine tells_member t (o := o) received fun m es t reached => ?_
  refine Call.tells_withArgs (fun _ => .wildArgument reached) fun args t => ?_
  have uses : o.Uses c r m (.invoke o.key r m kind args) := ⟨kind, args, rfl⟩
  refine tells_use t (f := .value) rfl reached uses fun v t => ?_
  exact Call.tells_lift (Call.tells_encode (fun none _ => .done reached uses none)
    fun x h some => .kept reached uses some)

theorem read_tells (target : Call.Target) (className name descriptor : String)
    (requested : ValueKind) :
    Tells F s [] (Call.read F target className name descriptor requested).run
      (Attempted (get target className name descriptor requested)) := by
  let o := get target className name descriptor requested
  refine Call.tells_descriptor (fun e parsed => ?_) fun declared parsed => ?_
  · exact .refused (by simp only [refusal?, parsed])
  refine Call.tells_check (fun e refused => ?_) fun kind _ => ?_
  · obtain ⟨mismatch, rfl⟩ := Call.hostKind_error refused
    exact .refused (by simp only [refusal?, parsed, if_neg mismatch])
  refine Call.tells_withType (fun _ _ => .atType) fun c t ds typed => ?_
  refine tells_received t (o := o) typed rfl fun r es t received => ?_
  refine tells_member t (o := o) received fun m es t reached => ?_
  have uses : o.Uses c r m (.readField o.key r m kind) := ⟨kind, rfl⟩
  refine tells_use t (f := .value) rfl reached uses fun v t => ?_
  exact Call.tells_lift (Call.tells_encode (fun none _ => .done reached uses none)
    fun x h some => .kept reached uses some)

theorem write_tells (target : Call.Target) (className name descriptor : String)
    (requested : ValueKind) (w : Word) :
    Tells F s [] (Call.write F target className name descriptor requested w).run
      (Attempted (set target className name descriptor requested w)) := by
  let o := set target className name descriptor requested w
  refine Call.tells_descriptor (fun e parsed => ?_) fun declared parsed => ?_
  · exact .refused (by simp only [refusal?, parsed])
  split
  case isTrue mismatch =>
    exact Tells.pure (.refused (by simp only [refusal?, parsed, if_pos mismatch]))
  case isFalse fits =>
  refine Call.tells_withType (fun _ _ => .atType) fun c t ds typed => ?_
  -- the value is decoded before the receiver is looked up, and dropped however the rest ends
  refine Call.tells_reads (Reads.decode F declared w) (fun _ => .wildWord typed) fun v t => ?_
  refine Tells.ensure ?_ (Hushed.dropValue F v)
  refine tells_received t (o := o) typed rfl fun r es t received => ?_
  refine tells_member t (o := o) received fun m es t reached => ?_
  have uses : o.Uses c r m (.writeField o.key r m v) := ⟨v, rfl⟩
  rw [← bind_pure (Call.ofHost (F.host.callWriteField _ r m v))]
  exact tells_use t (f := fun _ => .written) rfl reached uses fun b t =>
    .pure (.done reached uses rfl)

/-- What an attempt asks and changes is as its outcome says. -/
theorem attempt_tells (o : Operation α) : Tells F s [] (o.attempt F).run (Attempted o) := by
  cases o with
  | create className signature words => exact construct_tells s className signature words
  | call target className name signature requested words =>
    exact invoke_tells s target className name signature requested words
  | get target className name descriptor requested =>
    exact read_tells s target className name descriptor requested
  | set target className name descriptor requested w =>
    exact write_tells s target className name descriptor requested w

/-- What an operation asks and changes is what its attempt does, and the report of a failure. -/
theorem run_tells (o : Operation α) {post : Outcome α → List (Deed P) → Prop}
    (ok : ∀ a ds, Attempted o (.value (.ok a)) ds → post (.value a) ds)
    (error : ∀ e ds, Attempted o (.value (.error e)) ds →
      post (.value o.zero) (ds ++ [.reported (o.failure e)]))
    (panic : ∀ m ds, Attempted o (.panic m) ds → post (.panic m) ds)
    (halt : ∀ w ds, Attempted o (.halt w) ds → post (.halt w) ds) :
    Tells F s [] (o.op.run F) post := by
  rw [run_eq]
  refine (o.attempt_tells s).bind (fun r t ds attempted => ?_) panic halt
  cases r with
  | ok a => exact .pure (ok a ds attempted)
  | error e => exact .after_deed .reported .refl rfl (.pure (error e ds attempted))

end Operation

end HostBridge
