import HostBridge.Proofs.CachedNames
import HostBridge.Proofs.ChatCallback
import HostBridge.Proofs.HiddenCache
import HostBridge.Proofs.LossyTexts

/-!
One message on its way to the callback in a Java VM. The class and the method are looked up, unless
they are in the cache, one string is made of the text, and the method is called once with the player
and the string. An exception that it throws is told and cleared, so that the next message finds all
as this one did.
-/
namespace HostBridge

open Exec

variable {N : Process}

/-- The state with another exception pending, or none. -/
def State.withPending (s : State N.platform) (thrown : Option String) : State N.platform :=
  { s with ledger := { s.ledger with pending := thrown } }

namespace Chat

/-! ### The Java VM of the callback -/

/-- The class and the static method that messages are for, and what the world is like in which the
Java VM has them. -/
structure Callback (N : Process) where
  type : N.Class
  id : N.MemberId
  able : N.World → Prop

/-- What the cache has for the callback is the callback. -/
abbrev Callback.Cached (C : Callback N) : State N.platform → Prop := Named callbackKey C.type C.id

/-- Messages go to the callback, the Java VM is known, and the world is as it needs it. -/
structure Connected (C : Callback N) (s : State N.platform) : Prop where
  sink : s.bridge.chatSink = some .callback
  attached : s.ledger.attached = true
  able : C.able s.world

/-- Besides, no exception is pending. -/
structure Ready (C : Callback N) (s : State N.platform) : Prop extends Connected C s where
  settled : s.ledger.pending = none

/-- Besides, the cache has nothing else for the callback. -/
structure Poised (C : Callback N) (s : State N.platform) : Prop extends Ready C s where
  cached : C.Cached s

/-- References, memory and the record have no part in that. -/
theorem Poised.aside {C : Callback N} {s t : State N.platform} (h : Poised C s)
    (bridge : t.bridge = s.bridge) (world : t.world = s.world)
    (attached : t.ledger.attached = s.ledger.attached)
    (pending : t.ledger.pending = s.ledger.pending) : Poised C t where
  sink := bridge ▸ h.sink
  attached := attached ▸ h.attached
  able := world ▸ h.able
  settled := pending ▸ h.settled
  cached := ⟨bridge ▸ h.cached.types, bridge ▸ h.cached.members⟩

/-- Where messages can be sent, a function of the Java VM gives a value of a sort, and messages can
be sent again, with the memory as it was. -/
def Answers {β : Type} (C : Callback N) (x : Exec N.platform β) (good : β → Prop) : Prop :=
  ∀ m, Always (fun s => Ready C s ∧ s.memory = m) x
    (fun b s => good b ∧ Ready C s ∧ s.memory = m)

/-- The call of the method in the Java VM. -/
def onChatMessage (J : JavaVm N (Exec N.platform)) (C : Callback N) (player : Int64)
    (o : N.Object) : Exec N.platform (Raised (Given N.Object .void)) :=
  J.invoke (.static (some C.type)) C.id .void [.long player, .object (some o)]

/-- A Java VM that threads can be attached to, that finds the callback and makes strings. The
callback may do anything, throw, and never come back; if it does, it leaves the sink and the Java VM
where they were. -/
structure Serves (J : JavaVm N (Exec N.platform)) (C : Callback N) : Prop where
  attaches : ∀ w, C.able w → J.attaches w = true
  isTold : Answers C J.isTold (· = true)
  hasRoom : Answers C J.hasRoom (· = true)
  findClass : Answers C (J.findClass callbackClass) (· = ⟨some C.type, none⟩)
  findMember : Answers C (J.findMember (some C.type) .staticMethod callbackKey.name
    callbackKey.signature) (· = ⟨some C.id, none⟩)
  makeString : ∀ text, Answers C (J.makeString text) fun r => ∃ o, r = ⟨some o, none⟩
  onChatMessage : ∀ player o, Gives (Connected C) (onChatMessage J C player o)
    fun _ => Connected C

/-! ### Records -/

/-- The functions of a Java VM that a look-up runs. -/
inductive Seeks (J : JavaVm N (Exec N.platform)) : {β : Type} → Exec N.platform β → Prop
  | isTold : Seeks J J.isTold
  | hasRoom : Seeks J J.hasRoom
  | findClass (name : String) : Seeks J (J.findClass name)
  | findMember (c : Option N.Class) (sort : JavaSort) (name signature : String) :
    Seeks J (J.findMember c sort name signature)

/-- One record comes of another by look-ups: these are on it, and whatever the Java VM did while it
looked. -/
inductive Sought (J : JavaVm N (Exec N.platform)) :
    List (Happening N.platform) → List (Happening N.platform) → Prop
  | refl {r} : Sought J r r
  | noted {r r' e} : Sought J r r' → e.isLookup = true → Sought J r (e :: r')
  | ran {r} {β : Type} {x : Exec N.platform β} {b u v} :
    Sought J r u.record → Seeks J x → x u = (.value b, v) → Sought J r v.record

/-- Something that goes out to the Java VM, as it is on record. -/
def javaCall (c : JavaCall N.Object N.Class N.MemberId) : Happening N.platform :=
  .signal (Signal.java c)

/-- The call of the callback, as it is on record. -/
def calling (C : Callback N) (player : Int64) (o : N.Object) : Happening N.platform :=
  javaCall (.invoke (.static (some C.type)) C.id .void [.long player, .object (some o)])

/-- A message is handed over in a state: after look-ups the host was asked to call the callback with
the player and the text, a string was made of the text, and the Java VM is called with the player
and the string. -/
inductive Handed (J : JavaVm N (Exec N.platform)) (C : Callback N) (player : Int64)
    (text : String) (r : List (Happening N.platform)) (o : N.Object) (s : State N.platform) : Prop
  | mk {r'} {type : N.platform.Class} {u v : State N.platform} (sought : Sought J r r')
    (found : Pin.target type = some C.type)
    (asked : u.record = javaCall (.makeString text) :: .host (.invoke callbackKey (.static type)
      ⟨.staticMethod, C.id⟩ .void [.long player, .string (some text)]) :: r')
    (made : J.makeString text u = (.value ⟨some o, none⟩, v))
    (called : s.record = calling C player o :: v.record)

/-- What is told of an exception that was thrown. -/
def described : Option String → List (Happening N.platform)
  | none => []
  | some text => [javaCall (.describe text)]

/-- What is reported of it. -/
def complaint : Option String → List (Happening N.platform)
  | none => []
  | some _ => [.diagnostic (.callFailed .callStaticMethod callbackClass callbackKey.name
    (.host (.exception "method call")))]

/-- A message is delivered: it is handed over once, and the Java VM comes back. What was thrown is
told and reported, and nothing else is on the record. -/
def Delivered (J : JavaVm N (Exec N.platform)) (C : Callback N) (player : Int64)
    (text : String) (r r' : List (Happening N.platform)) : Prop :=
  ∃ o s given t, Handed J C player text r o s ∧
    onChatMessage J C player o s = (.value given, t) ∧
    let thrown := given.exception.or t.ledger.pending
    r' = complaint thrown ++ described thrown ++ t.record

/-- A message is handed over, and the Java VM does not come back. -/
def Stuck (J : JavaVm N (Exec N.platform)) (C : Callback N) (player : Int64)
    (text : String) (r : List (Happening N.platform)) : Prop :=
  ∃ o s, Handed J C player text r o s ∧
    ∀ given t, onChatMessage J C player o s ≠ (.value given, t)

/-- A value comes, unless the Java VM is called with the message and does not come back. -/
abbrev Sends {β : Type} (J : JavaVm N (Exec N.platform)) (C : Callback N)
    (player : Int64) (text : String) (r : List (Happening N.platform))
    (pre : State N.platform → Prop) (x : Exec N.platform β) (post : β → State N.platform → Prop) :
    Prop :=
  Triple pre x post (fun _ => Stuck J C player text r) fun _ => Stuck J C player text r

/-! ### Before the call -/

/-- A message is on its way: since the record was `r` only look-ups were made, and the copy of its
text is in memory. -/
structure Onward (J : JavaVm N (Exec N.platform)) (C : Callback N)
    (r : List (Happening N.platform)) (m : Memory) (s : State N.platform) : Prop
    extends Poised C s where
  memory : s.memory = m
  sought : Sought J r s.record

section
variable {J : JavaVm N (Exec N.platform)} {C : Callback N}
  {r : List (Happening N.platform)} {m : Memory} {s : State N.platform} {α : Type}
  {E H : State N.platform → Prop}

theorem Onward.withReferences (h : Onward J C r m s) (references : References) :
    Onward J C r m (s.withReferences references) :=
  ⟨h.aside rfl rfl rfl rfl, h.memory, h.sought⟩

theorem Onward.noted (h : Onward J C r m s) {e : Happening N.platform}
    (isLookup : e.isLookup = true) : Onward J C r m { s with record := e :: s.record } :=
  ⟨h.aside rfl rfl rfl rfl, h.memory, h.sought.noted isLookup⟩

theorem Onward.useReferences (f : References → α × References) :
    Triple (Onward J C r m) (JavaThread.useReferences (N := N) f)
      (fun _ => Onward J C r m) E H :=
  fun _ h => h.withReferences _

/-- A function that a look-up runs. -/
theorem Onward.seeks {β : Type} {x : Exec N.platform β} {good : β → Prop} (seeks : Seeks J x)
    (answers : Answers C x good)
    (keeps : Keeps C.Cached C.Cached x) :
    Always (Onward J C r m) x (fun b s => good b ∧ Onward J C r m s) := by
  intro s h
  have answered := answers m s ⟨h.toReady, h.memory⟩
  have cached := keeps s h.cached
  rcases run : x s with ⟨b | w | w, t⟩ <;> rw [run] at answered cached
  · exact ⟨answered.1, ⟨answered.2.1, cached⟩, answered.2.2, h.sought.ran seeks run⟩
  · exact answered
  · exact answered

/-! Calls that throw nothing -/

theorem pending_run {p : Option String} (h : s.ledger.pending = p) :
    JavaThread.pending (N := N) s = (.value p, s) := by
  rw [← h]
  rfl

theorem environment_run (attached : s.ledger.attached = true)
    (attaches : J.attaches s.world = true) :
    JavaThread.environment J s = (.value (.ok ()), s) := by
  have known : JavaThread.ledger (N := N) (·.attached) s = (.value true, s) := by
    rw [← attached]
    rfl
  have reached :
      Exec.gets (fun s : State N.platform => J.attaches s.world) s = (.value true, s) := by
    rw [← attaches]
    rfl
  unfold JavaThread.environment
  rw [run_bind, known]
  change (Exec.gets (fun s : State N.platform => J.attaches s.world) >>= _) s = _
  rw [run_bind, reached]
  rfl

theorem nonNull_run {place : String} {x : Exec N.platform (Raised (Option α))} {a : α}
    {s t : State N.platform} (ran : x s = (.value ⟨some a, none⟩, t))
    (settled : t.ledger.pending = none) :
    JavaThread.nonNull place x s = (.value (.ok a), t) := by
  have called : JavaThread.call x s = (.value (some a), t) := by
    unfold JavaThread.call
    rw [run_bind, ran]
    rfl
  have checked : JavaThread.checked x s = (.value (.ok (some a)), t) := by
    unfold JavaThread.checked
    rw [run_bind, called]
    dsimp only
    rw [run_bind, pending_run settled]
    rfl
  unfold JavaThread.nonNull
  rw [run_bind, checked]
  rfl

theorem settle_run {during : String} {a : α} (settled : s.ledger.pending = none) :
    JavaThread.settle (N := N) during (.ok a) s = (.value (.ok a), s) := by
  unfold JavaThread.settle
  rw [run_bind, pending_run settled]
  rfl

/-- A look-up that finds what it is for, and what comes after it. -/
theorem Onward.finds {β γ : Type} {x : Exec N.platform (Raised (Option β))} {b : β}
    {place during : String} {f : Except HostError β → Exec N.platform γ}
    {post : γ → State N.platform → Prop}
    (looks : Seeks J x) (answers : Answers C x (· = ⟨some b, none⟩))
    (keeps : Keeps C.Cached C.Cached x)
    (after : Always (Onward J C r m) (f (.ok b)) post) :
    Always (Onward J C r m) (do
        f (← JavaThread.settle (N := N) during (← JavaThread.nonNull place x)))
      post := by
  intro s h
  have found := Onward.seeks looks answers keeps s h
  rcases ran : x s with ⟨a | w | w, t⟩ <;> rw [ran] at found
  · obtain ⟨rfl, onward⟩ := found
    rw [run_bind, nonNull_run ran onward.settled]
    dsimp only
    rw [run_bind, settle_run onward.settled]
    exact after t onward
  · exact found.elim
  · exact found.elim

section
variable (serves : Serves J C)
  (each : J.Each fun x => Keeps C.Cached C.Cached x)
include serves

theorem Onward.environment : Triple (Onward J C r m) (JavaThread.environment J)
    (fun b s => b = .ok () ∧ Onward J C r m s) E H := by
  intro s h
  rw [environment_run h.attached (serves.attaches _ h.able)]
  exact ⟨rfl, h⟩

include each

theorem Onward.pin (l : Local α) : Always (Onward J C r m) (JavaThread.pin J l)
    (fun b s => ∃ p, b = .ok p ∧ p.target = some l.target ∧ Onward J C r m s) := by
  have made : Always (Onward J C r m) (JavaThread.newPin J l.target)
      (fun b s => ∃ p, b = .ok p ∧ p.target = some l.target ∧ Onward J C r m s) := by
    refine Triple.bind (Onward.seeks .isTold serves.isTold each.isTold) fun told => ?_
    refine Triple.of_and fun told => ?_
    subst told
    refine Triple.bind (Onward.seeks .hasRoom serves.hasRoom each.hasRoom) fun room => ?_
    refine Triple.of_and fun room => ?_
    subst room
    exact fun s h => ⟨_, rfl, rfl, h.withReferences _⟩
  refine made.bind fun b => Triple.of_exists fun p => Triple.of_and fun same => Triple.of_and ?_
  subst same
  exact fun target => (Onward.useReferences _).bind fun _ =>
    Triple.pure fun s h => ⟨p, rfl, target, h⟩

theorem Onward.resolveType : Always (Onward J C r m) (JavaHost.resolveType J callbackClass)
    (fun b s => ∃ p, b = .ok p ∧ p.target = some C.type ∧ Onward J C r m s) := by
  have name : JavaHost.internalName callbackClass = callbackClass := by decide +kernel
  unfold JavaHost.resolveType
  refine (Onward.environment serves).bind fun b => Triple.of_and fun reached => ?_
  subst reached
  rw [name]
  refine Onward.finds (.findClass _) serves.findClass (each.findClass _) ?_
  have added : Always (Onward J C r m) (JavaThread.addLocal (N := N) C.type)
      (fun l s => l.target = C.type ∧ Onward J C r m s) :=
    fun s h => ⟨rfl, h.withReferences _⟩
  refine added.bind fun l => Triple.of_and fun target => ?_
  exact target ▸ Onward.pin serves each l

theorem Onward.resolveMember {type : Pin N.Class} (found : type.target = some C.type) :
    Always (Onward J C r m) (JavaHost.resolveMember J type callbackKey)
      (fun b s => b = .ok ⟨.staticMethod, C.id⟩ ∧ Onward J C r m s) := by
  unfold JavaHost.resolveMember
  refine (Onward.environment serves).bind fun b => Triple.of_and fun reached => ?_
  subst reached
  rw [found]
  exact Onward.finds (.findMember _ _ _ _) serves.findMember (each.findMember _ _ _ _)
    (Triple.pure fun s h => ⟨rfl, h⟩)

end

/-! The cache -/

/-- Asks that are on record as look-ups. -/
theorem Onward.resolving {β : Type} {call : HostCall N.platform} {found : β → HostCall N.platform}
    {x : Exec N.platform (Except HostError β)} {p : β → Prop}
    (asked : (Happening.host call).isLookup = true)
    (given : ∀ b, (Happening.host (found b)).isLookup = true)
    (hx : Always (Onward J C r m) x
      (fun b s => ∃ a, b = .ok a ∧ p a ∧ Onward J C r m s)) :
    Always (Onward J C r m) (Host.resolving call found x)
      (fun b s => ∃ a, b = .ok a ∧ p a ∧ Onward J C r m s) := by
  have noted {e : Happening N.platform} (isLookup : e.isLookup = true) :
      Always (Onward J C r m) (Exec.record e) (fun _ => Onward J C r m) :=
    Triple.record fun s h => h.noted isLookup
  refine (noted asked).bind fun _ => hx.bind fun b => Triple.of_exists fun a =>
    Triple.of_and fun same => Triple.of_and fun good => ?_
  subst same
  exact (noted (given a)).bind fun _ => Triple.pure fun s h => ⟨a, rfl, good, h⟩

section
variable {S : Process.Surroundings N (Exec N.platform)}
  {extra : {α : Type} → N.Extra α → Exec N.platform α} (serves : Serves S.java C)
  (each : S.java.Each fun x => Keeps C.Cached C.Cached x)
include serves each

theorem Onward.type : Always (Onward S.java C r m)
    (Members.type (Process.foreign S extra) callbackClass)
    (fun b s => ∃ type, b = .ok type ∧ Pin.target type = some C.type ∧ Onward S.java C r m s) := by
  have kept (b : Except HostError N.platform.Class) (f : References → N.World → References) :
      Always (fun s => ∃ type, b = .ok type ∧ Pin.target type = some C.type ∧
          Onward S.java C r m s)
        (Exec.modify fun s => s.withReferences (f s.ledger.references s.world))
        (fun _ s => ∃ type, b = .ok type ∧ Pin.target type = some C.type ∧
          Onward S.java C r m s) := by
    apply Triple.modify
    rintro s ⟨type, same, target, h⟩
    exact ⟨type, same, target, h.withReferences _⟩
  apply Members.type_triple_of_upkeep fun token s =>
    Pin.target token = some C.type ∧ Onward S.java C r m s
  · exact fun b type => kept b fun r _ => r.share type
  · exact fun b type => kept b fun r w => r.drop (S.java.attaches w) type
  · intro s type h there
    exact ⟨type, rfl, h.cached.types _ (MemberCache.mem_of_lookup there) rfl, h⟩
  · rw [Host.callResolveType_eq]
    refine (Onward.resolving rfl (fun _ => rfl) (Onward.resolveType serves each)).weaken ?_
    rintro _ s ⟨type, rfl, target, h⟩
    exact ⟨target, h⟩
  · rintro token s ⟨target, h⟩
    obtain ⟨known, named⟩ := h.cached.addType
      fun _ : callbackClass = callbackKey.className => target
    exact ⟨_, rfl, known rfl, ⟨⟨⟨h.sink, h.attached, h.able⟩, h.settled⟩, named⟩, h.memory,
      h.sought⟩

theorem Onward.member {type : N.platform.Class} (found : Pin.target type = some C.type) :
    Always (Onward S.java C r m)
      (Members.member (Process.foreign S extra) type callbackKey)
      (fun b s => b = .ok (JavaMember.mk .staticMethod C.id) ∧ Onward S.java C r m s) := by
  apply Members.member_triple fun token s =>
    token = JavaMember.mk .staticMethod C.id ∧ Onward S.java C r m s
  · intro s member h there
    exact ⟨congrArg _ (h.cached.members _ (MemberCache.mem_of_lookup there) rfl), h⟩
  · rw [Host.callResolveMember_eq]
    have resolved := (Onward.resolveMember serves each found).weaken fun b s h =>
      (⟨_, h.1, rfl, h.2⟩ : ∃ a, b = .ok a ∧ a = ⟨.staticMethod, C.id⟩ ∧ Onward S.java C r m s)
    refine (Onward.resolving rfl (fun _ => rfl) resolved).weaken ?_
    rintro _ s ⟨member, rfl, same, h⟩
    exact ⟨same, h⟩
  · rintro token s ⟨same, h⟩
    obtain ⟨known, named⟩ := h.cached.addMember
      fun _ : callbackKey = callbackKey => same
    exact ⟨congrArg _ (known rfl), ⟨⟨⟨h.sink, h.attached, h.able⟩, h.settled⟩, named⟩, h.memory,
      h.sought⟩

end

/-! ### The call -/

/-- What comes of a call on the host, by what was thrown in it. -/
def answer {β : Type} (b : β) : Option String → Except HostError β
  | none => .ok b
  | some _ => .error (.exception "method call")

/-- The Java VM came back from a message, and what was thrown is told and cleared. -/
structure Back (J : JavaVm N (Exec N.platform)) (C : Callback N) (player : Int64) (text : String)
    (r : List (Happening N.platform)) (thrown : Option String) (s : State N.platform) : Prop
    extends Poised C s where
  came : ∃ o u given t, Handed J C player text r o u ∧
    onChatMessage J C player o u = (.value given, t) ∧
    given.exception.or t.ledger.pending = thrown ∧ s.record = described thrown ++ t.record

variable {player : Int64} {text : String} {thrown : Option String}

theorem Back.withReferences (h : Back J C player text r thrown s) (references : References) :
    Back J C player text r thrown (s.withReferences references) :=
  ⟨h.aside rfl rfl rfl rfl, h.came⟩

/-- A call that came back, with what is pending then. -/
theorem settle_checked_run {x : Exec N.platform (Raised α)} {given : Raised α}
    {s t : State N.platform} (ran : x s = (.value given, t)) :
    let thrown := given.exception.or t.ledger.pending
    (do JavaThread.settle (N := N) "method call" (← JavaThread.checked x)) s =
      (.value (answer given.value thrown),
        { t.withPending none with record := described thrown ++ t.record }) := by
  intro thrown
  have called : JavaThread.call x s = (.value given.value, t.withPending thrown) := by
    unfold JavaThread.call
    rw [run_bind, ran]
    obtain ⟨value, exception⟩ := given
    cases exception with
    | none => rfl
    | some text => rfl
  have pending : JavaThread.pending (N := N) (t.withPending thrown) =
      (.value thrown, t.withPending thrown) := pending_run rfl
  rw [run_bind]
  unfold JavaThread.checked
  rw [run_bind, called]
  dsimp only
  rw [run_bind, pending]
  unfold JavaThread.settle
  cases thrown with
  | none => rfl
  | some text => rfl

/-- Whatever the callback does, if it comes back its exception is told and cleared. -/
theorem Handed.comesBack (serves : Serves J C)
    (each : J.Each fun x => Keeps C.Cached C.Cached x) {o : N.Object}
    (connected : Connected C s) (named : C.Cached s)
    (handed : Handed J C player text r o s) :
    Sends J C player text r (· = s) (do
        JavaThread.settle (N := N) "method call"
          (← JavaThread.checked (onChatMessage J C player o)))
      (fun b t => ∃ (given : Given N.Object .void) (thrown : Option String),
        b = answer given thrown ∧ Back J C player text r thrown t) := by
  intro u same
  subst same
  have back := serves.onChatMessage player o u connected
  have keeps : Keeps C.Cached C.Cached (onChatMessage J C player o) := each.invoke _ _ _ _
  have kept := keeps u named
  rcases ran : onChatMessage J C player o u with ⟨given | w | w, t⟩ <;> rw [ran] at back kept
  · rw [settle_checked_run ran]
    exact ⟨_, _, rfl, ⟨⟨⟨back.sink, back.attached, back.able⟩, rfl⟩, kept.types, kept.members⟩,
      o, u, given, t, handed, ran, rfl, rfl⟩
  · rw [run_bind, JavaThread.checked, run_bind, JavaThread.call, run_bind, ran]
    exact ⟨o, u, handed, fun given t came => nomatch ran.symm.trans came⟩
  · rw [run_bind, JavaThread.checked, run_bind, JavaThread.call, run_bind, ran]
    exact ⟨o, u, handed, fun given t came => nomatch ran.symm.trans came⟩

/-- The host was asked to call the callback. -/
structure Asked (J : JavaVm N (Exec N.platform)) (C : Callback N) (player : Int64) (text : String)
    (r : List (Happening N.platform)) (s : State N.platform) : Prop extends Poised C s where
  asked : ∃ r' type, Sought J r r' ∧ Pin.target type = some C.type ∧
    s.record = .host (.invoke callbackKey (.static (type : N.platform.Class))
      (JavaMember.mk .staticMethod C.id) .void [.long player, .string (some text)]) :: r'

/-- The string was made, and the Java VM is about to be called with it. -/
structure Made (J : JavaVm N (Exec N.platform)) (C : Callback N) (player : Int64) (text : String)
    (r : List (Happening N.platform)) (o : N.Object) (s : State N.platform) : Prop
    extends Poised C s where
  handed : Handed J C player text r o { s with record := calling C player o :: s.record }

theorem Made.withReferences {o : N.Object} (h : Made J C player text r o s)
    (references : References) :
    Made J C player text r o (s.withReferences references) :=
  ⟨h.aside rfl rfl rfl rfl, let ⟨sought, found, asked, made, called⟩ := h.handed
    ⟨sought, found, asked, made, called⟩⟩

section
variable (serves : Serves J C)
  (each : J.Each fun x => Keeps C.Cached C.Cached x)
include serves each

theorem Asked.makeString : Always (Asked J C player text r) (JavaThread.makeString J text)
    (fun b s => ∃ o, b = .ok o ∧ Made J C player text r o s) := by
  intro s h
  obtain ⟨r', type, sought, found, asked⟩ := h.asked
  let u : State N.platform := { s with record := javaCall (.makeString text) :: s.record }
  have made := serves.makeString text u.memory u ⟨⟨⟨h.sink, h.attached, h.able⟩, h.settled⟩, rfl⟩
  have kept := each.makeString text u ⟨h.cached.types, h.cached.members⟩
  have signalled : JavaThread.makeString J text s =
      JavaThread.nonNull "NewStringUTF result" (J.makeString text) u := rfl
  rw [signalled]
  rcases ran : J.makeString text u with ⟨b | w | w, t⟩ <;> rw [ran] at made kept
  · obtain ⟨⟨o, rfl⟩, ready, -⟩ := made
    rw [nonNull_run ran ready.settled]
    have recorded : u.record = javaCall (.makeString text) :: s.record := rfl
    rw [asked] at recorded
    exact ⟨o, rfl, ⟨ready, kept⟩, sought, found, recorded, ran, rfl⟩
  · exact made.elim
  · exact made.elim

theorem Asked.lowerAll : Always (Asked J C player text r)
    (JavaHost.lowerAll J [.long player, .string (some text)])
    (fun b s => ∃ o l, b = .ok ([.long player, .object (some o)], [l]) ∧
      Made J C player text r o s) := by
  have lowered : Always (Asked J C player text r)
      (JavaHost.lower J (.string (some text)))
      (fun b s => ∃ o l, b = .ok (.object (some o), some l) ∧ Made J C player text r o s) := by
    refine (Asked.makeString serves each).bind fun b => Triple.of_exists fun o => Triple.of_and ?_
    rintro rfl
    have added : Always (Made J C player text r o) (JavaThread.addLocal (N := N) o)
        (fun _ => Made J C player text r o) :=
      fun s h => h.withReferences _
    exact added.bind fun l => Triple.pure fun s h => ⟨o, l, rfl, h⟩
  have rest : Always (Asked J C player text r)
      (JavaHost.lowerAll J [.string (some text)])
      (fun b s => ∃ o l, b = .ok ([.object (some o)], [l]) ∧ Made J C player text r o s) := by
    refine lowered.bind fun b => Triple.of_exists fun o => Triple.of_exists fun l =>
      Triple.of_and ?_
    rintro rfl
    exact Triple.pure fun s h => ⟨o, l, rfl, h⟩
  have first : Always (Asked J C player text r) (JavaHost.lower J (.long player))
      (fun b s => b = .ok (.long player, none) ∧ Asked J C player text r s) :=
    Triple.pure fun s h => ⟨rfl, h⟩
  refine first.bind fun b => Triple.of_and ?_
  rintro rfl
  refine rest.bind fun b => Triple.of_exists fun o => Triple.of_exists fun l => Triple.of_and ?_
  rintro rfl
  exact Triple.pure fun s h => ⟨o, l, rfl, h⟩

/-- The host calls the callback once, with the string. -/
theorem Asked.invoke {type : Pin N.Class} (found : type.target = some C.type) :
    Sends J C player text r (Asked J C player text r)
      (JavaHost.invoke J (.static type) ⟨.staticMethod, C.id⟩ .void
        [.long player, .string (some text)])
      (fun b s => ∃ thrown, b = answer .void thrown ∧ Back J C player text r thrown s) := by
  have reached : Sends J C player text r (Asked J C player text r) (JavaThread.environment J)
      (fun b s => b = .ok () ∧ Asked J C player text r s) := by
    intro s h
    rw [environment_run h.attached (serves.attaches _ h.able)]
    exact ⟨rfl, h⟩
  have dropped (l : Local N.Object) (thrown : Option String) :
      Sends J C player text r (Back J C player text r thrown) (JavaThread.dropLocals (N := N) [l])
        (fun _ => Back J C player text r thrown) :=
    Triple.forM (fun l s h => h.withReferences _) _
  unfold JavaHost.invoke
  refine reached.bind fun b => Triple.of_and ?_
  rintro rfl
  refine (Asked.lowerAll serves each).of_always.bind fun b => Triple.of_exists fun o =>
    Triple.of_exists fun l => Triple.of_and ?_
  rintro rfl
  simp only [JavaHost.methodReceiver, found]
  apply Triple.of_pre
  intro s h
  have signalled : Sends J C player text r (· = s) (Exec.record (calling C player o))
      (fun _ t => Connected C t ∧ C.Cached t ∧ Handed J C player text r o t) := by
    rintro _ rfl
    exact ⟨⟨h.sink, h.attached, h.able⟩, ⟨h.cached.types, h.cached.members⟩, h.handed⟩
  refine signalled.bind fun _ => Triple.of_pre ?_
  rintro t ⟨connected, named, handed⟩
  have settled := handed.comesBack serves each connected named
  rw [← bind_assoc]
  refine settled.bind fun b => Triple.of_exists fun given => Triple.of_exists fun thrown =>
    Triple.of_and ?_
  rintro rfl
  refine (dropped l thrown).bind fun _ => ?_
  cases thrown with
  | none => exact Triple.pure fun s h => ⟨none, rfl, h⟩
  | some text => exact Triple.pure fun s h => ⟨some text, rfl, h⟩

end

/-! ### The message -/

section
variable {S : Process.Surroundings N (Exec N.platform)}
  {extra : {α : Type} → N.Extra α → Exec N.platform α} (serves : Serves S.java C)
  (each : S.java.Each fun x => Keeps C.Cached C.Cached x)

/-- The call of a message came back: it failed if an exception was thrown. -/
def Ended (J : JavaVm N (Exec N.platform)) (C : Callback N) (player : Int64) (text : String)
    (r : List (Happening N.platform)) (b : Except CallError Word) (s : State N.platform) : Prop :=
  ∃ thrown, b = (answer Word.zero thrown).mapError .host ∧ Back J C player text r thrown s

/-- A message was delivered, and the next one can be. -/
structure Sent (J : JavaVm N (Exec N.platform)) (C : Callback N) (player : Int64) (text : String)
    (r : List (Happening N.platform)) (s : State N.platform) : Prop extends Poised C s where
  delivered : Delivered J C player text r s.record

/-- Nothing of a message has to be dropped. -/
theorem dropValues_arguments {E : State N.platform → Prop} {post : State N.platform → Prop} :
    Triple post ((Process.foreign S extra).host.dropValues [.long player, .string (some text)])
      (fun _ => post) E H :=
  fun _ h => h

include serves each

theorem Onward.callInvoke {type : N.platform.Class} (found : Pin.target type = some C.type) :
    Sends S.java C player text r (Onward S.java C r m)
      (Call.ofHost ((Process.foreign S extra).host.callInvoke callbackKey (.static type)
        (JavaMember.mk .staticMethod C.id) .void [.long player, .string (some text)])).run
      (fun b s => ∃ thrown, b = (answer .void thrown).mapError .host ∧
        Back S.java C player text r thrown s) := by
  have asked : Sends S.java C player text r (Onward S.java C r m)
      (Exec.record (.host (.invoke callbackKey (.static type)
        (JavaMember.mk .staticMethod C.id) .void [.long player, .string (some text)])))
      (fun _ => Asked S.java C player text r) :=
    Triple.record fun s h => ⟨h.aside rfl rfl rfl rfl, _, type, h.sought, found, rfl⟩
  refine Triple.bind (asked.bind fun _ => Asked.invoke serves each found) fun b => ?_
  refine Triple.of_exists fun thrown => Triple.of_and ?_
  rintro rfl
  exact Triple.pure fun s h => ⟨thrown, rfl, h⟩

variable (nulFree : '\x00' ∉ text.toList)
include nulFree

theorem useCallback_delivers {type : N.platform.Class} (found : Pin.target type = some C.type) :
    Sends S.java C player text r (Onward S.java C r (m.placeText text).2)
      (useCallback (Process.foreign S extra) player (m.placeText text).1 type
        (JavaMember.mk .staticMethod C.id)).run
      (Ended S.java C player text r) := by
  have args :
      callbackArgs (P := N.platform) m player text = [.long player, .string (some text)] := by
    have nonzero : (m.placeText text).1 ≠ 0 := m.place_ne_zero _
    unfold callbackArgs
    rw [if_neg nonzero]
  have decoded : Sends S.java C player text r (Onward S.java C r (m.placeText text).2)
      (liftM (Call.decodeArgs (Process.foreign S extra) [.long, .string]
        [.ofInt64 player, .ofPointer (m.placeText text).1]) : Call N.platform _).run
      (fun b s => b = .ok [.long player, .string (some text)] ∧
        Onward S.java C r (m.placeText text).2 s) := by
    apply Triple.of_pre
    intro u h
    refine Triple.bind (decodeArgs_copy nulFree h.memory).of_always fun b => Triple.of_and ?_
    rintro rfl
    apply Triple.pure
    rintro _ rfl
    exact ⟨by rw [args], h⟩
  have body : Sends S.java C player text r (Onward S.java C r (m.placeText text).2) (do
        let v ← Call.ofHost ((Process.foreign S extra).host.callInvoke callbackKey (.static type)
          (JavaMember.mk .staticMethod C.id) .void [.long player, .string (some text)])
        Call.encode (Process.foreign S extra) .void v : Call N.platform Word).run
      (Ended S.java C player text r) := by
    refine Triple.bind (Onward.callInvoke serves each found) fun b => ?_
    refine Triple.of_exists fun thrown => Triple.of_and ?_
    rintro rfl
    cases thrown with
    | none => exact fun s h => ⟨none, rfl, h⟩
    | some e => exact fun s h => ⟨some e, rfl, h⟩
  refine Call.triple_bind decoded (fun b => Triple.of_and ?_) fun e s h => nomatch h.1
  rintro ⟨⟩
  exact Triple.ensure body (fun _ => dropValues_arguments) dropValues_arguments

theorem callWith_delivers {type : N.platform.Class} (found : Pin.target type = some C.type) :
    Sends S.java C player text r (Onward S.java C r (m.placeText text).2)
      (callWith (Process.foreign S extra) player (m.placeText text).1 type).run
      (Ended S.java C player text r) := by
  have joined : Sends S.java C player text r (Onward S.java C r (m.placeText text).2)
      (Call.ofHost (Members.member (Process.foreign S extra) type callbackKey)).run
      (fun b s => b = .ok (JavaMember.mk .staticMethod C.id) ∧
        Onward S.java C r (m.placeText text).2 s) := by
    refine Triple.bind (Onward.member serves each found).of_always fun b => Triple.of_and ?_
    rintro rfl
    exact Triple.pure fun s h => ⟨rfl, h⟩
  refine Call.triple_bind joined (fun member => Triple.of_and ?_) fun e s h => nomatch h.1
  rintro ⟨⟩
  exact useCallback_delivers serves each nulFree found

theorem invoke_delivers :
    Sends S.java C player text r (Onward S.java C r (m.placeText text).2)
      (Call.invoke (Process.foreign S extra) .static callbackKey.className callbackKey.name
        callbackKey.signature .void [.ofInt64 player, .ofPointer (m.placeText text).1]).run
      (Ended S.java C player text r) := by
  have typed : Sends S.java C player text r (Onward S.java C r (m.placeText text).2)
      (Call.ofHost (Members.type (Process.foreign S extra) callbackClass)).run
      (fun b s => ∃ type, b = .ok type ∧ Pin.target type = some C.type ∧
        Onward S.java C r (m.placeText text).2 s) := by
    refine Triple.bind (Onward.type serves each).of_always fun b => Triple.of_exists fun type =>
      Triple.of_and ?_
    rintro rfl
    exact Triple.pure fun s h => ⟨type, rfl, h⟩
  have dropped (type : N.platform.Class) (b : Except CallError Word) :
      Sends S.java C player text r (Ended S.java C player text r b)
        ((Process.foreign S extra).host.dropType type)
        (fun _ => Ended S.java C player text r b) := by
    apply Triple.modify
    rintro s ⟨thrown, same, h⟩
    exact ⟨thrown, same, h.withReferences _⟩
  rw [invoke_callback]
  refine Call.triple_bind typed (fun type => Triple.of_exists fun type' => ?_) ?_
  · refine Triple.of_and fun same => Triple.of_and fun found => ?_
    cases same
    exact Triple.ensure (callWith_delivers serves each nulFree found) (dropped type)
      (Triple.modify fun _ h => h)
  · rintro e s ⟨type, same, -⟩
    cases same

/-- What a call of the callback reports is that it failed, if an exception was thrown. -/
theorem callMethod_delivers :
    Sends S.java C player text r (Onward S.java C r (m.placeText text).2)
      (Dynamic.callMethod (Process.foreign S extra) .static callbackKey.className callbackKey.name
        callbackKey.signature .void [.ofInt64 player, .ofPointer (m.placeText text).1])
      (fun _ => Sent S.java C player text r) := by
  refine (invoke_delivers serves each nulFree).bind fun b => Triple.of_exists fun thrown =>
    Triple.of_and ?_
  rintro rfl
  cases thrown with
  | none =>
    apply Triple.pure
    intro s h
    obtain ⟨o, u, given, t, handed, ran, none, record⟩ := h.came
    exact ⟨h.toPoised, o, u, given, t, handed, ran, by rw [record, none]; rfl⟩
  | some e =>
    refine Triple.bind (Triple.record fun s h => ?_) fun _ => Triple.pure fun s h => h
    obtain ⟨o, u, given, t, handed, ran, some, record⟩ := h.came
    exact ⟨h.aside rfl rfl rfl rfl, o, u, given, t, handed, ran, by rw [some, record]; rfl⟩

/-- A message to the callback is delivered, unless the Java VM does not come back. -/
theorem send_delivers : Sends S.java C player text r (fun s => s.record = r ∧ Poised C s)
    (send (Process.foreign S extra) player text) (fun _ => Sent S.java C player text r) := by
  have whole : ¬text.toList.any (· == '\x00') = true := by simpa using nulFree
  have called : Sends S.java C player text r (fun s => s.record = r ∧ Poised C s)
      (callBack (Process.foreign S extra) player text)
      (fun _ => Sent S.java C player text r) := by
    unfold callBack
    rw [if_neg whole]
    apply Triple.of_pre
    rintro s ⟨rfl, h⟩
    have placed : Sends S.java C player text s.record (· = s) (Call.placeText text)
        (fun address t => address = (s.memory.placeText text).1 ∧
          Onward S.java C s.record (s.memory.placeText text).2 t) := by
      rintro _ rfl
      exact ⟨rfl, h.aside rfl rfl rfl rfl, rfl, .refl⟩
    refine placed.bind fun address => Triple.of_and ?_
    rintro rfl
    refine Triple.ensure (callMethod_delivers serves each nulFree).discard (fun _ => ?_)
      (Triple.modify fun _ h => h)
    exact Triple.modify fun t h => ⟨h.aside rfl rfl rfl rfl, h.delivered⟩
  unfold send
  apply Triple.of_pre
  intro s h
  have asked : Sends S.java C player text r (· = s) (Exec.bridge (·.chatSink))
      (fun sink t => sink = some .callback ∧ t.record = r ∧ Poised C t) := by
    rintro _ rfl
    exact ⟨h.2.sink, h⟩
  refine asked.bind fun sink => Triple.of_and ?_
  rintro rfl
  exact called.bind fun _ => Triple.pure fun s h => h

end
end
end Chat
end HostBridge
