import HostBridge.Proofs.FreshHandles

/-!
What an operation does by itself. A run of an operation is told as a sequence of deeds: what it asks
of the host, which is code of its own and may do anything, and what it changes between. Everything
else that it does is quiet: it moves references, memory and reports, but nothing of the bridge.
-/
namespace HostBridge

variable {P : Platform} {α β γ : Type}

/-- The outcome with another value. -/
def Outcome.map (f : α → β) : Outcome α → Outcome β
  | .value a => .value (f a)
  | .panic m => .panic m
  | .halt w => .halt w

theorem Exec.run_map (f : α → β) (x : Exec P α) (s : State P) :
    (f <$> x) s = ((x s).1.map f, (x s).2) := by
  change Exec.bind x (fun a => Exec.pure (f a)) s = _
  unfold Exec.bind
  rcases x s with ⟨_ | _ | _, _⟩ <;> rfl

/-! ### Deeds -/

/-- What an operation may ask of the host. A use of a member stands with the names for which the
operation asked for it. -/
inductive Ask (P : Platform) where
  | type (name : String)
  | member (type : P.Class) (key : MemberKey)
  | construct (key : MemberKey) (type : P.Class) (member : P.Member)
      (args : List (HostValue P.Object))
  | invoke (key : MemberKey) (receiver : Receiver P.Object P.Class) (member : P.Member)
      (result : ValueKind) (args : List (HostValue P.Object))
  | readField (key : MemberKey) (receiver : Receiver P.Object P.Class) (member : P.Member)
      (kind : ValueKind)
  | writeField (key : MemberKey) (receiver : Receiver P.Object P.Class) (member : P.Member)
      (value : HostValue P.Object)

/-- What the host may answer. -/
inductive HostReply (P : Platform) where
  | type (type : P.Class)
  | member (member : P.Member)
  | object (o : Option P.Object)
  | value (v : HostValue P.Object)
  | written

namespace Ask

/-- The call on the host, with all that the host does before it answers. -/
def run (H : Host P (Exec P)) : Ask P → Exec P (Except HostError (HostReply P))
  | .type name => Except.map .type <$> H.callResolveType name
  | .member c key => Except.map .member <$> H.callResolveMember c key
  | .construct key c m args => Except.map .object <$> H.callConstruct key c m args
  | .invoke key r m result args => Except.map .value <$> H.callInvoke key r m result args
  | .readField key r m kind => Except.map .value <$> H.callReadField key r m kind
  | .writeField key r m v => Except.map (fun _ => .written) <$> H.callWriteField key r m v

/-- Whether a type or a member is looked up; everything else uses a member. -/
def isLookup : Ask P → Bool
  | .type _ | .member _ _ => true
  | _ => false

end Ask

/-- One thing that an operation does by itself, or that it asks of the host. -/
inductive Deed (P : Platform) where
  | asked (a : Ask P) (came : Outcome (Except HostError (HostReply P)))
  | learntType (name : String) (type : P.Class)
  | learntMember (key : MemberKey) (member : P.Member)
  /-- The receiver of an operation was looked up. -/
  | lookedUp (h : Handle) (found : Option P.Object)
  | stored (o : P.Object) (h : Handle)
  | released (h : Handle) (found : Bool)
  | releasedAll (count : Nat)
  | cleared
  | reported (d : Diagnostic)

/-- Whether a report is a remark on the words of an operation, rather than one of its failure. -/
def Diagnostic.IsRemark : Diagnostic → Prop
  | unknownHandle _ | argumentCount _ _ => True
  | _ => False

/-- From one state to another nothing is different but the memory, what the two sides keep for
themselves, which unknown handles are remembered as reported, and some remarks. -/
structure Quiet (s t : State P) : Prop where
  bridge : ∃ reported, t.bridge =
    { s.bridge with handles := { s.bridge.handles with reported := reported } }
  thread : t.thread = s.thread
  threads : t.threads = s.threads
  files : t.files = s.files
  environment : t.environment = s.environment
  record : ∃ remarks : List Diagnostic, (∀ d ∈ remarks, d.IsRemark) ∧
    t.record = remarks.map .diagnostic ++ s.record

namespace Quiet

variable {s t u : State P}

/-- Memory and sides are no part of what is told. -/
theorem aside (m : Memory) (l : P.Ledger) (w : P.World) :
    Quiet s { s with memory := m, ledger := l, world := w } :=
  ⟨⟨_, rfl⟩, rfl, rfl, rfl, rfl, [], List.forall_mem_nil _, rfl⟩

theorem refl : Quiet s s := aside s.memory s.ledger s.world

theorem trans (first : Quiet s t) (second : Quiet t u) : Quiet s u := by
  obtain ⟨reported, bridge⟩ := first.bridge
  obtain ⟨reported', bridge'⟩ := second.bridge
  obtain ⟨remarks, are, record⟩ := first.record
  obtain ⟨remarks', are', record'⟩ := second.record
  refine ⟨⟨reported', by rw [bridge', bridge]⟩, second.thread.trans first.thread,
    second.threads.trans first.threads, second.files.trans first.files,
    second.environment.trans first.environment, remarks' ++ remarks, ?_, ?_⟩
  · intro d mem
    rcases List.mem_append.mp mem with mem | mem
    · exact are' d mem
    · exact are d mem
  · rw [record', record, List.map_append, List.append_assoc]

theorem remark {d : Diagnostic} (h : d.IsRemark) :
    Quiet s { s with record := .diagnostic d :: s.record } :=
  ⟨⟨_, rfl⟩, rfl, rfl, rfl, rfl, [d], by simpa using h, rfl⟩

/-- Looking a handle up moves no entry. -/
theorem looked (h : Handle) :
    Quiet s { s with bridge := { s.bridge with handles := (s.bridge.handles.get h).2.2 } } := by
  obtain ⟨entries, issued⟩ := s.bridge.handles.get_entries h
  refine ⟨⟨(s.bridge.handles.get h).2.2.reported, ?_⟩, rfl, rfl, rfl, rfl, [],
    List.forall_mem_nil _, rfl⟩
  rcases got : (s.bridge.handles.get h).2.2 with ⟨i, e, r⟩
  rw [got] at entries issued
  dsimp only at entries issued ⊢
  rw [entries, issued]

/-- The live objects are the same. -/
theorem find? (quiet : Quiet s t) (h : Handle) :
    t.bridge.handles.find? h = s.bridge.handles.find? h := by
  obtain ⟨reported, bridge⟩ := quiet.bridge
  rw [bridge]
  rfl

end Quiet

/-- What a deed of one's own does. -/
inductive Deed.Does : Deed P → State P → State P → Prop
  | learntType {s name type} : Does (.learntType name type) s
    { s with bridge := { s.bridge with members := (s.bridge.members.addType name type).2.2 } }
  | learntMember {s key member} : Does (.learntMember key member) s
    { s with bridge := { s.bridge with members := (s.bridge.members.addMember key member).2 } }
  | lookedUp {s h} : Does (.lookedUp h (s.bridge.handles.get h).1) s s
  | stored {s} {o : P.Object} : Does (.stored o (s.bridge.handles.insert o).1) s
    { s with bridge := { s.bridge with handles := (s.bridge.handles.insert o).2 } }
  | released {s h} : Does (.released h (s.bridge.handles.release h).1.isSome) s
    { s with bridge := { s.bridge with handles := (s.bridge.handles.release h).2 } }
  | releasedAll {s} : Does (.releasedAll s.bridge.handles.releaseAll.1.length) s
    { s with bridge := { s.bridge with handles := s.bridge.handles.releaseAll.2 } }
  | cleared {s} : Does .cleared s
    { s with bridge := { s.bridge with members := s.bridge.members.clear } }
  | reported {s d} : Does (.reported d) s { s with record := .diagnostic d :: s.record }

/-- The deeds that lead from one state to another. What the host does when asked is its own. -/
inductive Trail (F : Foreign P (Exec P)) : State P → List (Deed P) → State P → Prop
  | here {s} : Trail F s [] s
  | quiet {s t u ds} (between : Quiet s t) (rest : Trail F t ds u) : Trail F s ds u
  | asked {s t u ds a came} (run : a.run F.host s = (came, t)) (rest : Trail F t ds u) :
    Trail F s (.asked a came :: ds) u
  | own {s t u ds d} (does : Deed.Does d s t) (rest : Trail F t ds u) : Trail F s (d :: ds) u

theorem Trail.append {F : Foreign P (Exec P)} {s t u : State P} {ds es : List (Deed P)}
    (first : Trail F s ds t) (second : Trail F t es u) : Trail F s (ds ++ es) u := by
  induction first with
  | here => exact second
  | quiet between _ ih => exact .quiet between (ih second)
  | asked run _ ih => exact .asked run (ih second)
  | own does _ ih => exact .own does (ih second)

/-! ### Quiet computations -/

/-- A computation that quietly comes to a value. -/
def Hushed (x : Exec P α) : Prop :=
  ∀ s, ∃ a t, x s = (.value a, t) ∧ Quiet s t

/-- A computation that quietly comes to a value, unless an address that it reads names no buffer. -/
def Reads (x : Exec P α) : Prop :=
  ∀ s, ∃ t, Quiet s t ∧
    ((∃ a, x s = (.value a, t)) ∨ ∃ address, x s = (.halt (.wildPointer address), t))

namespace Hushed

variable {x : Exec P α} {f : α → Exec P β}

theorem pure (a : α) : Hushed (pure a : Exec P α) :=
  fun s => ⟨a, s, rfl, .refl⟩

theorem bind (hx : Hushed x) (hf : ∀ a, Hushed (f a)) : Hushed (x >>= f) := by
  intro s
  obtain ⟨a, t, run, quiet⟩ := hx s
  obtain ⟨b, u, next, quiet'⟩ := hf a t
  exact ⟨b, u, by rw [Exec.run_bind, run]; exact next, quiet.trans quiet'⟩

theorem gets (f : State P → α) : Hushed (Exec.gets f) :=
  fun s => ⟨f s, s, rfl, .refl⟩

theorem upkeep (f : P.Ledger → P.World → P.Ledger × P.World) : Hushed (Exec.upkeep f) :=
  fun s => ⟨(), _, rfl, .aside s.memory _ _⟩

theorem remark (d : Diagnostic) (h : d.IsRemark) : Hushed (Exec.report (P := P) d) :=
  fun _ => ⟨(), _, rfl, .remark h⟩

theorem forM {f : α → Exec P Unit} (hf : ∀ a, Hushed (f a)) (l : List α) :
    Hushed (l.forM f) := by
  induction l with
  | nil => exact pure ()
  | cons a l ih => exact (hf a).bind fun _ => ih

/-- What is quietly done in the end changes no outcome. -/
theorem ensured {after : Exec P Unit} (ha : Hushed after) (x : Exec P α) (s : State P) :
    ∃ t, x.ensure after s = ((x s).1, t) ∧ Quiet (x s).2 t := by
  unfold Exec.ensure
  rcases run : x s with ⟨a | m | w, t⟩
  · obtain ⟨⟨⟩, u, done, quiet⟩ := ha t
    have attempted : x.attempt s = (.value (.ok a), t) := by simp only [Exec.attempt, run]
    refine ⟨u, ?_, quiet⟩
    rw [Exec.run_bind, attempted]
    dsimp only
    rw [Exec.run_bind, done]
    rfl
  · obtain ⟨⟨⟩, u, done, quiet⟩ := ha t
    have attempted : x.attempt s = (.value (.error m), t) := by simp only [Exec.attempt, run]
    refine ⟨u, ?_, quiet⟩
    rw [Exec.run_bind, attempted]
    dsimp only
    rw [Exec.run_bind, done]
    rfl
  · have attempted : x.attempt s = (.halt w, t) := by simp only [Exec.attempt, run]
    refine ⟨t, ?_, .refl⟩
    rw [Exec.run_bind, attempted]

variable (F : Foreign P (Exec P))

theorem dropValue (v : HostValue P.Object) : Hushed (F.host.dropValue v) := by
  unfold Host.dropValue
  split
  · exact upkeep _
  · exact pure ()

theorem dropValues (vs : List (HostValue P.Object)) : Hushed (F.host.dropValues vs) :=
  forM (dropValue F) vs

theorem placeText (text : String) : Hushed (Call.placeText (P := P) text) :=
  (gets _).bind fun m => Hushed.bind
    (fun s => ⟨(), _, rfl, .aside (m.placeText text).2 s.ledger s.world⟩) fun _ => pure _

theorem reads (hx : Hushed x) : Reads x := fun s =>
  let ⟨a, t, run, quiet⟩ := hx s
  ⟨t, quiet, .inl ⟨a, run⟩⟩

end Hushed

/-- A look-up gives what is in the table and is quiet. -/
theorem Objects.lookup_quiet (F : Foreign P (Exec P)) (h : Handle) (s : State P) :
    ∃ t, Objects.lookup F h s = (.value (s.bridge.handles.get h).1, t) ∧ Quiet s t := by
  have looked := Quiet.looked (s := s) h
  have told {t : State P} (quiet : Quiet s t) :
      Quiet s { t with record := .diagnostic (.unknownHandle h) :: t.record } :=
    quiet.trans (.remark trivial)
  have shared {t : State P} (quiet : Quiet s t) (o : P.Object) :
      Quiet s (F.host.share o t).2 :=
    quiet.trans (.aside t.memory _ _)
  unfold Objects.lookup Exec.bridge
  rw [Exec.run_bind, Exec.run_gets]
  dsimp only
  rcases got : s.bridge.handles.get h with ⟨found, new, table⟩
  rw [got] at looked
  cases new <;> cases found
  · exact ⟨_, rfl, looked⟩
  · exact ⟨_, rfl, shared looked _⟩
  · exact ⟨_, rfl, told looked⟩
  · exact ⟨_, rfl, shared (told looked) _⟩

/-- An object is entered, and what gives way to it is dropped quietly. -/
theorem Objects.store_quiet (F : Foreign P (Exec P)) (o : P.Object) (s : State P) :
    ∃ t, Objects.store F (some o) s = (.value (s.bridge.handles.insert o).1, t) ∧
      Quiet { s with bridge := { s.bridge with handles := (s.bridge.handles.insert o).2 } } t := by
  unfold Objects.store Exec.bridge
  rw [Exec.run_bind, Exec.run_gets]
  dsimp only
  cases s.bridge.handles.replaced (some o) with
  | none => exact ⟨_, rfl, .refl⟩
  | some old => exact ⟨_, rfl, .aside s.memory _ _⟩

namespace Reads

variable {x : Exec P α} {f : α → Exec P β} (F : Foreign P (Exec P))

theorem bind (hx : Reads x) (hf : ∀ a, Reads (f a)) : Reads (x >>= f) := by
  intro s
  obtain ⟨t, quiet, ⟨a, run⟩ | ⟨address, run⟩⟩ := hx s
  · obtain ⟨u, quiet', next⟩ := hf a t
    refine ⟨u, quiet.trans quiet', ?_⟩
    rw [Exec.run_bind, run]
    exact next
  · exact ⟨t, quiet, .inr ⟨address, by rw [Exec.run_bind, run]⟩⟩

theorem readText (address : UInt64) : Reads (Call.readText (P := P) address) := by
  unfold Call.readText
  split
  · exact (Hushed.pure _).reads
  · refine (Hushed.gets _).reads.bind fun buffer => ?_
    cases buffer with
    | none => exact fun s => ⟨s, .refl, .inr ⟨address, rfl⟩⟩
    | some bytes => exact (Hushed.pure _).reads

theorem decode (kind : ValueKind) (w : Word) : Reads (Call.decode F kind w) := by
  have lookup : Reads (do return HostValue.object (← Objects.lookup F w.toHandle)) := by
    refine Reads.bind (fun s => ?_) fun _ => (Hushed.pure _).reads
    obtain ⟨t, run, quiet⟩ := Objects.lookup_quiet F w.toHandle s
    exact ⟨t, quiet, .inl ⟨_, run⟩⟩
  cases kind with
  | string => exact (readText _).bind fun _ => (Hushed.pure _).reads
  | object | array => exact lookup
  | _ => exact (Hushed.pure _).reads

theorem decodeEach (kinds : List ValueKind) (words : List Word) :
    Reads (Call.decodeEach F kinds words) := by
  induction kinds generalizing words with
  | nil => exact (Hushed.pure _).reads
  | cons kind kinds ih =>
    cases words with
    | nil => exact (ih []).bind fun _ => (Hushed.pure _).reads
    | cons w words =>
      exact (decode F kind w).bind fun _ => (ih words).bind fun _ => (Hushed.pure _).reads

theorem decodeArgs (params : List ValueKind) (words : List Word) :
    Reads (Call.decodeArgs F params words) := by
  unfold Call.decodeArgs
  split
  · exact (Hushed.remark (.argumentCount _ _) trivial).reads.bind fun _ =>
      decodeEach F params words
  · exact decodeEach F params words

end Reads

/-! ### What a computation does by itself -/

/-- From a state before which some deeds were done a computation does more of them, and all are as
`post` says by its outcome. -/
def Tells (F : Foreign P (Exec P)) (s : State P) (before : List (Deed P)) (x : Exec P α)
    (post : Outcome α → List (Deed P) → Prop) : Prop :=
  ∃ ds, Trail F s ds (x s).2 ∧ post (x s).1 (before ++ ds)

namespace Tells

variable {F : Foreign P (Exec P)} {s : State P} {before : List (Deed P)} {x : Exec P α}
  {k : α → Exec P β} {mid : Outcome α → List (Deed P) → Prop}
  {post : Outcome β → List (Deed P) → Prop}

theorem pure {a : α} (h : mid (.value a) before) : Tells F s before (pure a) mid :=
  ⟨[], .here, by rwa [List.append_nil]⟩

theorem bind (hx : Tells F s [] x mid)
    (value : ∀ a t ds, mid (.value a) ds → Tells F t (before ++ ds) (k a) post)
    (panic : ∀ m ds, mid (.panic m) ds → post (.panic m) (before ++ ds))
    (halt : ∀ w ds, mid (.halt w) ds → post (.halt w) (before ++ ds)) :
    Tells F s before (x >>= k) post := by
  obtain ⟨ds, trail, hm⟩ := hx
  rw [List.nil_append] at hm
  unfold Tells
  rw [Exec.run_bind]
  rcases run : x s with ⟨a | m | w, t⟩ <;> rw [run] at trail hm
  · obtain ⟨es, further, hp⟩ := value a t ds hm
    rw [List.append_assoc] at hp
    exact ⟨ds ++ es, trail.append further, hp⟩
  · exact ⟨ds, trail, panic m ds hm⟩
  · exact ⟨ds, trail, halt w ds hm⟩

theorem weaken {mid' : Outcome α → List (Deed P) → Prop} (hx : Tells F s before x mid)
    (h : ∀ out ds, mid out ds → mid' out ds) : Tells F s before x mid' := by
  obtain ⟨ds, trail, hm⟩ := hx
  exact ⟨ds, trail, h _ _ hm⟩

/-- What comes after a quiet step. -/
theorem after_quiet {a : α} {t : State P} (run : x s = (.value a, t)) (between : Quiet s t)
    (next : Tells F t before (k a) post) : Tells F s before (x >>= k) post := by
  obtain ⟨ds, trail, hp⟩ := next
  refine ⟨ds, ?_, ?_⟩
  · rw [Exec.run_bind, run]
    exact .quiet between trail
  · rw [Exec.run_bind, run]
    exact hp

theorem after_hushed (hx : Hushed x) (next : ∀ a t, Tells F t before (k a) post) :
    Tells F s before (x >>= k) post := by
  obtain ⟨a, t, run, quiet⟩ := hx s
  exact after_quiet run quiet (next a t)

theorem after_reads (hx : Reads x) (wild : ∀ a, post (.halt (.wildPointer a)) before)
    (next : ∀ a t, Tells F t before (k a) post) : Tells F s before (x >>= k) post := by
  obtain ⟨t, quiet, ⟨a, run⟩ | ⟨address, run⟩⟩ := hx s
  · exact after_quiet run quiet (next a t)
  · refine ⟨[], ?_, ?_⟩
    · rw [Exec.run_bind, run]
      exact .quiet quiet .here
    · rw [Exec.run_bind, run, List.append_nil]
      exact wild address

theorem of_hushed (hx : Hushed x) (h : ∀ a, mid (.value a) before) : Tells F s before x mid := by
  obtain ⟨a, t, run, quiet⟩ := hx s
  refine ⟨[], ?_, ?_⟩
  · rw [run]
    exact .quiet quiet .here
  · rw [run, List.append_nil]
    exact h a

/-- What comes after a deed of one's own. -/
theorem after_deed {d : Deed P} {a : α} {t u : State P} (does : d.Does s t)
    (between : Quiet t u) (run : x s = (.value a, u))
    (next : Tells F u (before ++ [d]) (k a) post) : Tells F s before (x >>= k) post := by
  obtain ⟨ds, trail, hp⟩ := next
  refine ⟨d :: ds, ?_, ?_⟩
  · rw [Exec.run_bind, run]
    exact .own does (.quiet between trail)
  · rw [Exec.run_bind, run]
    rwa [List.append_assoc, List.singleton_append] at hp

/-- What is quietly done in the end tells nothing. -/
theorem ensure {after : Exec P Unit} (hx : Tells F s before x mid) (ha : Hushed after) :
    Tells F s before (x.ensure after) mid := by
  obtain ⟨ds, trail, hp⟩ := hx
  obtain ⟨t, run, quiet⟩ := ha.ensured x s
  refine ⟨ds, ?_, ?_⟩
  · rw [run]
    exact List.append_nil ds ▸ trail.append (.quiet quiet .here)
  · rw [run]
    exact hp

end Tells

/-- How a question to the host came out: with an answer, which some deeds led to, or with no
answer. -/
inductive Answered (a : Ask P) (answer : α → List (Deed P) → Prop) :
    Outcome (Except HostError α) → List (Deed P) → Prop
  | answer {b ds} (h : answer b ds) : Answered a answer (.value (.ok b)) ds
  | failed (e) : Answered a answer (.value (.error e)) [.asked a (.value (.error e))]
  | panicked (m) : Answered a answer (.panic m) [.asked a (.panic m)]
  | halted (w) : Answered a answer (.halt w) [.asked a (.halt w)]

/-- The deed of asking. -/
theorem Tells.asks {F : Foreign P (Exec P)} {s : State P} {x : Exec P (Except HostError α)}
    {a : Ask P} {f : α → HostReply P} (same : a.run F.host = Except.map f <$> x) :
    Tells F s [] x
      (Answered a fun b ds => ds = [.asked a (.value (.ok (f b)))]) := by
  have run : a.run F.host s = ((x s).1.map (Except.map f), (x s).2) := by
    rw [same, Exec.run_map]
  refine ⟨_, .asked run .here, ?_⟩
  rcases (x s).1 with (e | b) | m | w
  · exact .failed e
  · exact .answer rfl
  · exact .panicked m
  · exact .halted w

/-! ### Look-ups -/

/-- The deeds that lead to a type: none if it is in the cache. -/
inductive Typed (name : String) : P.Class → List (Deed P) → Prop
  | known (c) : Typed name c []
  | found (c kept) :
    Typed name kept [.asked (.type name) (.value (.ok (.type c))), .learntType name c]

/-- The deeds that lead to a member. -/
inductive Membered (type : P.Class) (key : MemberKey) : P.Member → List (Deed P) → Prop
  | known (m) : Membered type key m []
  | found (m kept) : Membered type key kept
      [.asked (.member type key) (.value (.ok (.member m))), .learntMember key m]

namespace Members

variable (F : Foreign P (Exec P)) (s : State P)

theorem type_tells (name : String) :
    Tells F s [] (Members.type F name) (Answered (.type name) (Typed name)) := by
  have shared (t : State P) {before : List (Deed P)} {c : P.Class} (typed : Typed name c before) :
      Tells F t before (do F.host.shareType c; return (.ok c : Except HostError P.Class))
        (Answered (.type name) (Typed name)) :=
    .after_hushed (Hushed.upkeep _) fun _ _ => .pure (.answer typed)
  unfold Members.type
  refine .after_quiet (x := Exec.bridge _) rfl .refl ?_
  rcases s.bridge.members.type? name with _ | c
  · refine .bind (.asks (a := .type name) (f := .type) rfl) (fun r t ds came => ?_)
      (fun m ds came => ?_) fun w ds came => ?_
    · cases came with
      | failed e => exact .pure (.failed e)
      | answer h =>
        rename_i c
        subst h
        refine .after_quiet (x := Exec.bridge _) rfl .refl ?_
        refine .after_deed (d := .learntType name c) .learntType .refl rfl ?_
        split
        · exact .after_hushed (Hushed.upkeep _) fun _ u => shared u (.found c _)
        · exact shared _ (.found c _)
    · cases came with
      | panicked m => exact .panicked m
    · cases came with
      | halted w => exact .halted w
  · exact shared s (.known c)

theorem member_tells (type : P.Class) (key : MemberKey) :
    Tells F s [] (Members.member F type key)
      (Answered (.member type key) (Membered type key)) := by
  unfold Members.member
  refine .after_quiet (x := Exec.bridge _) rfl .refl ?_
  rcases s.bridge.members.member? key with _ | m
  · refine .bind (.asks (a := .member type key) (f := .member) rfl) (fun r t ds came => ?_)
      (fun m ds came => ?_) fun w ds came => ?_
    · cases came with
      | failed e => exact .pure (.failed e)
      | answer h =>
        rename_i m
        subst h
        refine .after_quiet (x := Exec.bridge _) rfl .refl ?_
        refine .after_deed (d := .learntMember key m) .learntMember .refl rfl ?_
        exact .pure (.answer (.found m _))
    · cases came with
      | panicked m => exact .panicked m
    · cases came with
      | halted w => exact .halted w
  · exact .pure (.answer (.known m))

end Members

end HostBridge
