import HostBridge.Proofs.FailsClosed
import HostBridge.Proofs.HeldReferences
import HostBridge.Proofs.JavaTidy
import HostBridge.Proofs.ProcessContract
import HostBridge.Proofs.ReferencesConserved

/-!
What cannot be pinned is not held. A thread that is not told its Java VM pins nothing, and whatever
a bridge holds over a Java VM is a reference that this made when it was asked for one. The null
reference, which a Java VM without room gives, counts as one that it made.
-/
namespace HostBridge

open Exec

variable {N : Process} {α β γ : Type}

/-! ### References that the Java VM makes -/

/-- The reference is not null. -/
def Pin.IsPresent (p : Pin α) : Prop := p.target.isSome = true

/-- A thread was told its Java VM, which then had room for a reference, or had none. -/
def JavaVm.Makes (J : JavaVm N (Exec N.platform)) (present : Bool) : Prop :=
  ∃ s t u, J.isTold s = (.value true, t) ∧ J.hasRoom t = (.value present, u)

/-- An invariant of the handles and the cache that the functions of the Java VM keep is kept by all
its operations, and these hand over only references that it made. -/
theorem JavaVm.Each.contract {J : JavaVm N (Exec N.platform)} {I H : State N.platform → Prop}
    (each : J.Each fun x => Keeps I H x)
    (blind : ∀ {s t}, I s → s.bridge.handles = t.bridge.handles →
      s.bridge.members = t.bridge.members → I t) :
    JavaContract J I H fun p s => J.Makes p.target.isSome ∧ I s := by
  have aside {s t : State N.platform} (h : I s) (same : s.holdings = t.holdings) : I t :=
    blind h (State.handles_of_holdings same) (State.members_of_holdings same)
  refine ⟨each, fun h same _ => aside h same, fun h same _ => ⟨h.1, aside h.2 same⟩,
    fun target => ?_⟩
  have told : Triple I J.isTold
      (fun b t => (b = true → ∃ s, J.isTold s = (.value true, t)) ∧ I t) I H := by
    intro s h
    have kept := each.isTold s h
    rcases run : J.isTold s with ⟨b | m | w, t⟩ <;> rw [run] at kept
    · refine ⟨?_, kept⟩
      rintro rfl
      exact ⟨s, run⟩
    · exact kept
    · exact kept
  unfold JavaThread.newPin
  refine told.bind fun b => ?_
  cases b with
  | false => exact Triple.pure fun _ h => h.2
  | true =>
    have room : Triple (fun t => (true = true → ∃ s, J.isTold s = (.value true, t)) ∧ I t)
        J.hasRoom (fun present u => J.Makes present ∧ I u) I H := by
      rintro t ⟨asked, h⟩
      obtain ⟨s, asked⟩ := asked rfl
      have kept := each.hasRoom t h
      rcases run : J.hasRoom t with ⟨present | m | w, u⟩ <;> rw [run] at kept
      · exact ⟨⟨s, t, u, asked, run⟩, kept⟩
      · exact kept
      · exact kept
    refine room.bind fun present => ?_
    have added : Triple (fun u => J.Makes present ∧ I u)
        (JavaThread.useReferences (N := N) (·.addPin (if present then some target else none)))
        (fun p u => J.Makes p.target.isSome ∧ I u) I H := by
      rintro u ⟨makes, h⟩
      refine ⟨?_, blind h rfl rfl⟩
      show J.Makes (if present then some target else none).isSome
      cases present <;> exact makes
    exact added.bind fun p => Triple.pure fun _ h => h

/-! ### Answers of the Java VM as a host -/

/-- What comes of a computation whose value is changed. -/
theorem Exec.Triple.map {P : Platform} {pre E H : State P → Prop} {x : Exec P α} {f : α → β}
    {post : β → State P → Prop} (hx : Triple pre x (fun a => post (f a)) E H) :
    Triple pre (f <$> x) post E H := by
  intro s h
  have after := hx s h
  rw [Exec.run_map]
  rcases run : x s with ⟨a | m | w, t⟩ <;> rw [run] at after <;> exact after

namespace JavaContract

variable {J : JavaVm N (Exec N.platform)} {I H : State N.platform → Prop}
  {handed : {α : Type} → Pin α → State N.platform → Prop}

/-- What is so after an answer of the host, by the reference that is in it. -/
def Answered (I : State N.platform → Prop)
    (handed : {α : Type} → Pin α → State N.platform → Prop)
    (r : Except HostError (HostReply N.platform)) : State N.platform → Prop :=
  match r with
  | .ok (.type c) => @handed N.Class c
  | .ok reply => Handed I handed reply.object?
  | .error _ => I

theorem ask (C : JavaContract J I H handed) (a : Ask N.platform) :
    Triple I (a.run (JavaHost.host J)) (Answered I handed) I H := by
  have asked {γ : Type} {x : Exec N.platform γ} {post : γ → State N.platform → Prop}
      (c : HostCall N.platform) (hx : Triple I x post I H) :
      Triple I (do Exec.record (.host c); x) post I H :=
    Triple.bind (C.record _) fun _ => hx
  cases a with
  | type name =>
    apply Triple.map
    refine asked _ (Triple.bind (C.resolveType name) fun r => ?_)
    cases r with
    | error e => exact Triple.pure fun _ h => h
    | ok c =>
      have noted : Triple (@handed N.Class c) (Exec.record (.host (.typeFound name c)))
          (fun _ => @handed N.Class c) I H :=
        Triple.record fun s h => C.handedAside h rfl (s.engine_record rfl)
      exact noted.bind fun _ => Triple.pure fun _ h => h
  | member c key =>
    apply Triple.map
    refine asked _ (Triple.bind (C.resolveMember c key) fun r => ?_)
    cases r with
    | error e => exact Triple.pure fun _ h => h
    | ok m => exact Triple.bind (C.record _) fun _ => Triple.pure fun _ h => h
  | construct key c m args =>
    apply Triple.map
    refine (asked _ (C.construct c m args)).weaken fun r s h => ?_
    cases r <;> exact h
  | invoke key r m result args =>
    apply Triple.map
    refine (asked _ (C.invoke r m result args)).weaken fun r s h => ?_
    cases r <;> exact h
  | readField key r m kind =>
    apply Triple.map
    refine (asked _ (C.readField r m kind)).weaken fun r s h => ?_
    cases r <;> exact h
  | writeField key r m v =>
    apply Triple.map
    refine (asked _ (C.writeField r m v)).weaken fun r s h => ?_
    cases r <;> exact h

/-- What is so of all that is handed over is so of what is in an answer. -/
theorem Answered.fits {given : {α : Type} → Pin α → Prop} {object : N.platform.Object → Prop}
    {type : N.platform.Class → Prop} (objects : ∀ p : Pin N.Object, given p → object p)
    (types : ∀ p : Pin N.Class, given p → type p) {reply : HostReply N.platform}
    {s : State N.platform} (h : Answered I (fun p s => given p ∧ I s) (.ok reply) s) :
    reply.Fits object type ∧ I s := by
  have reference {o : Option (Pin N.Object)}
      (h : Handed I (fun {α} (p : Pin α) s => given p ∧ I s) o s) :
      (∀ x, o = some x → object x) ∧ I s := by
    cases o with
    | none => exact ⟨nofun, h⟩
    | some p =>
      refine ⟨?_, h.2⟩
      rintro x ⟨⟩
      exact objects p h.1
  cases reply with
  | type c =>
    refine ⟨⟨nofun, ?_⟩, h.2⟩
    rintro d ⟨⟩
    exact types c h.1
  | object o => exact ⟨⟨(reference h).1, nofun⟩, (reference h).2⟩
  | value v => exact ⟨⟨(reference h).1, nofun⟩, (reference h).2⟩
  | member m => exact ⟨⟨nofun, nofun⟩, h⟩
  | written => exact ⟨⟨nofun, nofun⟩, h⟩

end JavaContract

/-! ### Answers that are pinned -/

/-- The state with another book of references. -/
def State.withReferences (s : State N.platform) (references : References) : State N.platform :=
  { s with ledger := { s.ledger with references := references } }

namespace JavaHost

open JavaThread

variable (J : JavaVm N (Exec N.platform))

/-- A computation whose last step pins the target of what was given, if it has one. What stood
against that it was given, or against the pin, is the answer. -/
def EndsInPin (target : γ → Option α) (f : Option (Pin α) → β)
    (x : Exec N.platform (Except HostError β)) : Prop :=
  ∃ given : Exec N.platform (Except HostError γ), x = do
    match ← given with
    | .error e => return .error e
    | .ok a => return (← pinGiven J (target a)).map f

namespace EndsInPin

variable {J} {target : γ → Option α} {f : Option (Pin α) → β}

theorem error {e : HostError} : EndsInPin J target f (pure (.error e)) :=
  ⟨pure (.error e), rfl⟩

theorem pins (a : γ) : EndsInPin J target f (do return (← pinGiven J (target a)).map f) :=
  ⟨pure (.ok a), rfl⟩

/-- A pin that is the answer as it is. -/
theorem pinned (a : γ) : EndsInPin J target (fun p => p) (pinGiven J (target a)) := by
  have same (r : Except HostError (Option (Pin α))) : r.map (fun p => p) = r := by
    cases r <;> rfl
  have answer : EndsInPin J target (fun p => p)
      (do return (← pinGiven J (target a)).map fun p => p) := pins a
  simpa only [same, bind_pure] using answer

theorem bind {δ : Type} {x : Exec N.platform δ} {k : δ → Exec N.platform (Except HostError β)}
    (h : ∀ a, EndsInPin J target f (k a)) : EndsInPin J target f (x >>= k) := by
  choose given same using h
  refine ⟨x >>= given, ?_⟩
  rw [bind_assoc]
  exact bind_congr same

/-- What has a target is not answered by the null reference. -/
theorem ne_null {x : Exec N.platform (Except HostError (Option (Pin α)))}
    (h : EndsInPin J some (fun p => p) x) : Gives (fun _ => True) x fun r _ => r ≠ .ok none := by
  obtain ⟨given, rfl⟩ := h
  refine Triple.bind Triple.any fun r => ?_
  cases r with
  | error e => exact Triple.pure fun _ _ => nofun
  | ok a =>
    refine Triple.bind (Triple.bind Triple.any fun l => Triple.bind Triple.any fun r => ?_)
      fun r => Triple.pure fun _ made => made
    apply Triple.pure
    cases r <;> exact fun _ _ => nofun

end EndsInPin

/-- How the Java VM as a host pins. The references in its answers are pinned last of all. -/
structure PinsLast : Prop where
  /-- A thread that is not told its Java VM pins nothing. -/
  untold : ∀ {α : Type} (l : Local α) s t, J.isTold s = (.value false, t) →
    pin J l s = (.value (.error (.pinFailed "JNI call failed")),
      t.withReferences (t.ledger.references.dropLocal l))
  /-- Any other pin is made, also that of the null reference where there is no room. -/
  told : ∀ {α : Type} (l : Local α) s t u room, J.isTold s = (.value true, t) →
    J.hasRoom t = (.value room, u) →
    let made := u.ledger.references.addPin (if room then some l.target else none)
    pin J l s = (.value (.ok made.1), u.withReferences (made.2.dropLocal l))
  type : ∀ name, EndsInPin J some (fun p => p) (Except.map some <$> resolveType J name)
  construct : ∀ c m args, EndsInPin J some (fun p => p) (construct J c m args)
  invoke : ∀ r m kind args, kind = .object ∨ kind = .array →
    EndsInPin J (fun o => o) .object (invoke J r m kind args)
  readField : ∀ r m kind, kind = .object ∨ kind = .array →
    EndsInPin J (fun o => o) .object (readField J r m kind)

theorem resolveType_endsInPin (name : String) :
    EndsInPin J some (fun p => p) (Except.map some <$> resolveType J name) := by
  have failed (e : HostError) : EndsInPin J some (fun p => p)
      (Except.map some <$>
        (return .error e : Exec N.platform (Except HostError (Pin N.Class)))) := by
    rw [map_pure]
    exact .error
  unfold resolveType
  rw [map_bind]
  refine .bind fun r => ?_
  cases r with
  | error e => exact failed _
  | ok _ =>
    dsimp only
    rw [map_bind]
    refine .bind fun found => ?_
    rw [map_bind]
    refine .bind fun found => ?_
    rcases found with e | c
    · cases e <;> exact failed _
    · have pinned : Except.map some <$> (do pin J (← addLocal c)) =
          JavaThread.pinGiven J (some c) := by
        rw [map_bind]
        rfl
      exact pinned ▸ .pinned c

theorem construct_endsInPin (c : Pin N.Class) (m : JavaMember N.MemberId)
    (args : List (HostValue (Pin N.Object))) :
    EndsInPin J some (fun p => p) (construct J c m args) := by
  unfold construct
  split
  · exact .error
  · refine .bind fun r => ?_
    cases r with
    | error e => exact .error
    | ok _ =>
      refine .bind fun r => ?_
      rcases r with e | ⟨values, locals⟩
      · exact .error
      · refine .bind fun _ => .bind fun made => .bind fun made => .bind fun _ => ?_
        cases made with
        | error e => exact .error
        | ok o => exact .pinned o

theorem lift_endsInPin {kind : ValueKind} (reference : kind = .object ∨ kind = .array)
    (x : Given N.Object kind) : EndsInPin J (fun o => o) .object (lift J kind x) := by
  rcases reference with rfl | rfl
  · exact .pins x
  · exact .pins x

theorem pinsLast : PinsLast J where
  untold l s t told := by
    unfold pin newPin
    rw [Exec.run_bind, Exec.run_bind, told]
    rfl
  told l s t u room told has := by
    unfold pin newPin
    rw [Exec.run_bind, Exec.run_bind, told]
    dsimp only
    rw [if_pos rfl, Exec.run_bind, has]
    rfl
  type := resolveType_endsInPin J
  construct := construct_endsInPin J
  invoke r m kind args reference := by
    unfold JavaHost.invoke
    refine .bind fun r => ?_
    cases r with
    | error e => exact .error
    | ok _ =>
      refine .bind fun r => ?_
      rcases r with e | ⟨values, locals⟩
      · exact .error
      · dsimp only
        split
        · exact .bind fun _ => .error
        · refine .bind fun _ => .bind fun given => .bind fun given => .bind fun _ => ?_
          cases given with
          | error e => exact .error
          | ok x => exact lift_endsInPin J reference x
  readField r m kind reference := by
    unfold JavaHost.readField
    refine .bind fun r => ?_
    cases r with
    | error e => exact .error
    | ok _ =>
      dsimp only
      split
      · exact .error
      · refine .bind fun given => .bind fun given => ?_
        cases given with
        | error e => exact .error
        | ok x => exact lift_endsInPin J reference x

end JavaHost

/-! ### A process -/

namespace Process

/-- What is so of every reference that the Java VM makes is so of all that a bridge holds. -/
theorem heldContract {S : Surroundings N (Exec N.platform)}
    {extra : {α : Type} → N.Extra α → Exec N.platform α} {object : N.platform.Object → Prop}
    {type : N.platform.Class → Prop}
    (objects : ∀ p : Pin N.Object, S.java.Makes p.target.isSome → object p)
    (types : ∀ p : Pin N.Class, S.java.Makes p.target.isSome → type p)
    (each : S.Each fun x => Keeps (Holds object type) (Holds object type) x)
    (others : ∀ {α : Type} (o : N.Extra α),
      Keeps (Holds object type) (Holds object type) (extra o)) :
    HeldContract (foreign S extra) object type := by
  have java := each.java.contract fun h handles members => ⟨handles ▸ h.objects, members ▸ h.types⟩
  have contract : ProcessContract S (Holds object type) (Holds object type)
      fun p s => S.java.Makes p.target.isSome ∧ Holds object type s :=
    { toJavaContract := java
      beside := fun h same =>
        ⟨State.handles_of_holdings same ▸ h.objects, State.members_of_holdings same ▸ h.types⟩
      halts := fun _ h => h
      library := each.library
      handler := each.handler
      sink := each.sink }
  have made : JavaContract S.java (fun _ => True) (fun _ => True)
      fun p _ => S.java.Makes p.target.isSome ∧ True :=
    JavaVm.Each.contract (S.java.each_map (f := fun x => x) fun _ => Triple.any)
      fun _ _ _ => trivial
  exact {
    toUseBlind := contract.blind
    replies := fun a => (made.ask a).weaken fun r s h reply same => by
      subst same
      exact (h.fits objects types).1
    asks := fun a => (java.ask a).weaken fun r s h => by
      cases r with
      | ok reply => exact (h.fits objects types).2
      | error e => exact h
    sink := fun s player text => (contract.record _).bind fun _ => contract.sink s player text
    extra := fun o => by
      cases o with
      | inl r => exact contract.request r
      | inr o => exact others o }

variable {S : Surroundings N (Act N.platform)} {extra : {α : Type} → N.Extra α → Act N.platform α}

/-- In some run a thread was told its Java VM, which then had room for a reference, or had none. -/
def Surroundings.Makes (S : Surroundings N (Act N.platform)) (present : Bool) : Prop :=
  ∃ F s t u, S.java.isTold.run F s = (.value true, t) ∧ S.java.hasRoom.run F t = (.value present, u)

theorem Surroundings.makes_of_exec {limit : Nat} {present : Bool}
    (makes : (S.map fun a => (system S extra).exec limit a).java.Makes present) :
    S.Makes present := by
  obtain ⟨s, t, u, told, room⟩ := makes
  cases limit with
  | zero => cases told
  | succ limit => exact ⟨_, s, t, u, told, room⟩

/-- A reference that the Java VM makes, the null reference if it does so without room. -/
def Surroundings.Made (S : Surroundings N (Act N.platform)) (p : Pin α) : Prop :=
  S.Makes p.target.isSome

section
variable {object : N.platform.Object → Prop} {type : N.platform.Class → Prop}
  (objects : ∀ p : Pin N.Object, S.Made p → object p)
  (types : ∀ p : Pin N.Class, S.Made p → type p)
include objects types

theorem heldContract_of_exec {limit : Nat} (each : ∀ {α : Type} (a : Act N.platform α),
    Keeps (Holds object type) (Holds object type) ((system S extra).exec limit a)) :
    HeldContract ((system S extra).foreign limit) object type :=
  heldContract (fun p makes => objects p (Surroundings.makes_of_exec makes))
    (fun p makes => types p (Surroundings.makes_of_exec makes)) (S.each_map each) fun _ => each _

/-- Whatever programs run into and however deep, they leave what is so of all references that the
Java VM makes. -/
theorem exec_holds (limit : Nat) (a : Act N.platform α) :
    Keeps (Holds object type) (Holds object type) ((system S extra).exec limit a) := by
  induction limit generalizing α with
  | zero => exact Keeps.halt fun _ h => h
  | succ limit ih => exact (heldContract_of_exec objects types ih).act a

theorem runTurns_holds (limit : Nat) (turns : List (ThreadId × Act N.platform Unit))
    {s : State N.platform} (h : Holds object type s) :
    Holds object type ((system S extra).runTurns limit turns s) :=
  System.runTurns_keeps (fun _ h => h) (fun _ _ h => ⟨h.objects, h.types⟩)
    (fun a => exec_holds objects types limit a) turns h

end

/-! ### Failing closed -/

/-- What operations do about references of which some are made, and some cannot be. -/
structure AddsMade (F : Foreign N.platform (Exec N.platform))
    (made : {α : Type} → Pin α → Prop) : Prop where
  /-- An operation adds only references that were made. If the host fails, which it does when it
  cannot pin, zero is answered, one warning is reported, and nothing is kept; if it fails to look
  the type up, it is asked for nothing more and nothing is learnt. -/
  operations : ∀ {α : Type} (o : Operation α) s, ∃ ds,
    Trail F s ds ((o.attempt F).run s).2 ∧ (∀ d ∈ ds, d.Adds made made) ∧
      ∀ a e, .asked a (.value (.error e)) ∈ ds →
        (o.op (P := N.platform)).run F s =
          (.value o.zero, ((o.attempt F).run s).2.report (o.failure (.host e))) ∧
        (o.failure (.host e)).level = .warning ∧ (∀ d ∈ ds, d.KeepsHandles) ∧
        ∀ name, a = .type name → ds = [.asked a (.value (.error e))]
  /-- A constructor that does not fail keeps a reference that was made. -/
  created : ∀ className signature words s h t,
    ((Operation.create className signature words).attempt F).run s = (.value (.ok h), t) →
    ∃ ds p, Trail F s ds t ∧ .stored p h ∈ ds ∧ made p

/-- What is held while a Java VM makes references, or fails to. -/
structure PinsFailClosed (S : Surroundings N (Act N.platform))
    (extra : {α : Type} → N.Extra α → Act N.platform α) (limit : Nat) : Prop
    extends AddsMade ((system S extra).foreign limit) S.Made where
  pins : JavaHost.PinsLast (S.map fun a => (system S extra).exec limit a).java
  /-- What is held was held before, or it was made. -/
  held : ∀ turns s, Holds (fun p => p ∈ s.bridge.handles.entries.map Prod.snd ∨ S.Made p)
    (fun c => c ∈ s.bridge.members.types.map Prod.snd ∨ S.Made c)
    ((system S extra).runTurns limit turns s)
  /-- As long as there is room, no null reference is held. -/
  present : ¬S.Makes false → ∀ turns s, Holds Pin.IsPresent Pin.IsPresent s →
    Holds Pin.IsPresent Pin.IsPresent ((system S extra).runTurns limit turns s)

/-- A constructor that is done gives an object, not the null reference. -/
theorem construct_gives (J : JavaVm N (Exec N.platform)) (key : MemberKey) (c : Pin N.Class)
    (m : JavaMember N.MemberId) (args : List (HostValue (Pin N.Object))) :
    Gives (fun _ => True) ((Ask.construct (P := N.platform) key c m args).run (JavaHost.host J))
      fun r _ => ∀ reply, r = .ok reply → ∃ p, reply = .object (some p) := by
  apply Triple.map
  refine Triple.bind Triple.any fun _ => ?_
  refine (JavaHost.construct_endsInPin J c m args).ne_null.weaken fun r s some => ?_
  rcases r with e | _ | p
  · exact fun _ => nofun
  · exact absurd rfl some
  · rintro reply ⟨⟩
    exact ⟨p, rfl⟩

theorem addsMade (limit : Nat) : AddsMade ((system S extra).foreign limit) S.Made := by
  have contract : HeldContract ((system S extra).foreign limit) S.Made S.Made :=
    heldContract_of_exec (fun _ h => h) (fun _ h => h)
      (exec_holds (fun _ h => h) (fun _ h => h) limit)
  have adds {β : Type} {o : Operation β} {s t : State N.platform} {out ds}
      (trail : Trail ((system S extra).foreign limit) s ds t) (attempted : o.Attempted out ds) :
      ∀ d ∈ ds, d.Adds S.Made S.Made :=
    trail.adds attempted.fromHost contract.replies
  constructor
  case operations =>
    intro α o s
    obtain ⟨ds, trail, attempted⟩ := o.attempt_tells (F := (system S extra).foreign limit) s
    refine ⟨ds, trail, adds trail attempted, fun a e failed => ?_⟩
    obtain ⟨out, alone⟩ := attempted.of_failed failed
    rw [out] at attempted
    exact ⟨Operation.run_failed (Prod.ext out rfl), (o.failure_operation _).1,
      attempted.failedAt.keepsHandles, alone⟩
  case created =>
    intro className signature words s h t run
    let o := Operation.create className signature words
    obtain ⟨ds, trail, attempted⟩ := o.attempt_tells (F := (system S extra).foreign limit) s
    rw [run] at trail attempted
    have added := adds trail attempted
    cases attempted with
    | atType stops => cases stops
    | atMember received stops => cases stops
    | atUse reached uses stops => cases stops
    | @done c r m before a reply _ reached uses none =>
      obtain ⟨args, rfl⟩ := uses
      obtain ⟨u, v, asked⟩ := trail.run_of_asked (List.mem_append_right _ List.mem_cons_self)
      have gives :=
        construct_gives (S.map fun a => (system S extra).exec limit a).java o.key c m args
      obtain ⟨p, rfl⟩ := (gives.of_imp fun _ _ => trivial).of_value asked reply rfl
      cases none
    | @kept c r m before a reply x k reached uses some =>
      have stored : Deed.stored x k ∈ before ++ [.asked a (.value (.ok reply))] ++ [.stored x k] :=
        List.mem_append_right _ List.mem_cons_self
      exact ⟨_, x, trail, stored, added _ stored⟩

/-- What cannot be pinned is not held. A failure to pin is one of the host, and an operation that
the host fails keeps and learns nothing. All that is held, at any depth of foreign code, the Java VM
made when it was asked for it; so no null reference is held while there is room. -/
theorem pins_failClosed (S : Surroundings N (Act N.platform))
    (extra : {α : Type} → N.Extra α → Act N.platform α) (limit : Nat) :
    PinsFailClosed S extra limit where
  toAddsMade := addsMade limit
  pins := JavaHost.pinsLast _
  held turns s := by
    refine runTurns_holds (fun _ => .inr) (fun _ => .inr) limit turns ⟨?_, ?_⟩
    · exact fun e mem => .inl (List.mem_map_of_mem mem)
    · exact fun e mem => .inl (List.mem_map_of_mem mem)
  present room turns s h := by
    have present {α : Type} (p : Pin α) (made : S.Made p) : p.IsPresent := by
      by_contra null
      unfold Pin.IsPresent at null
      rw [Bool.not_eq_true] at null
      exact room (null ▸ made)
    exact runTurns_holds present present limit turns h

end Process

/-! ### A process with a Java VM without room -/

/-- The report that a happening is. -/
def Happening.report? {P : Platform} : Happening P → Option Diagnostic
  | .diagnostic d => some d
  | _ => none

namespace Plain

theorem unruly_room : ¬unruly.Makes false := by
  rintro ⟨F, s, t, u, -, room⟩
  cases room

/-- The process with a Java VM that has no room for references. -/
def full : Process.Surroundings process (Act process.platform) :=
  { unruly with java := { unrulyVm with hasRoom := pure false } }

/-- What comes of making an object there, and the state afterwards. -/
def filling : Outcome Handle × State process.platform :=
  (Process.system full fun o => nomatch o).exec 3 (Act.op (.createObject "Point" "()V" []))
    inSession

end Plain

namespace Process

/-- Two objects are held by a reference each, of which one is released by a method that gives
another. -/
theorem pins_failClosed_plain :
    let t := Plain.unrulySystem.runTurns 3 Plain.gift Plain.inSession
    ¬Plain.unruly.Makes false ∧ Holds Pin.IsPresent Pin.IsPresent Plain.inSession ∧
      t.bridge.handles.entries.map Prod.fst = [⟨2⟩] ∧ Holds Pin.IsPresent Pin.IsPresent t := by
  have new : Holds Pin.IsPresent Pin.IsPresent Plain.inSession := ⟨nofun, nofun⟩
  obtain ⟨-, -, -, handles⟩ := Plain.gift_given
  refine ⟨Plain.unruly_room, new, handles, ?_⟩
  exact (pins_failClosed Plain.unruly (fun o => nomatch o) 3).present Plain.unruly_room Plain.gift
    Plain.inSession new

/-- A Java VM without room gives the null reference for the class and for the object. Both are
taken: the class is cached, the object has a handle that is not null, and nothing is reported. -/
theorem null_pins_held :
    let t := Plain.filling.2
    Plain.filling.1 = .value ⟨1⟩ ∧
      t.bridge.handles.entries.map (fun (h, (p : Pin String)) => (h, p.target)) =
        [(⟨1⟩, none)] ∧
      t.bridge.members.types.map (fun (name, (p : Pin Unit)) => (name, p.target)) =
        [("Point", none)] ∧
      t.record.filterMap Happening.report? = [] := by
  decide +kernel

end Process
end HostBridge
