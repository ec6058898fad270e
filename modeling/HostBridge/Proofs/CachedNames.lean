import HostBridge.Proofs.PinnedReferences

/-!
What the cache has for a name over a Java VM that knows one class by it. Classes and members get
into the cache only from the look-ups of a bridge, so if the Java VM never finds another class under
the name, nor another member of it for a key, the cache never has another one.
-/
namespace HostBridge

open Exec JavaThread

variable {N : Process} {α : Type}

/-! ### Results -/

/-- What holds besides, if a value comes. -/
theorem Exec.Triple.with_gives {P : Platform} {pre E H : State P → Prop} {x : Exec P α}
    {mid mid' : α → State P → Prop} (h : Triple pre x mid E H) (g : Gives pre x mid') :
    Triple pre x (fun a s => mid a s ∧ mid' a s) E H := by
  intro s hs
  have first := h s hs
  have second := g s hs
  rcases run : x s with ⟨a | m | w, t⟩ <;> rw [run] at first second
  · exact ⟨first, second⟩
  · exact first
  · exact first

/-- If a result comes, and is no failure, it has the property. -/
abbrev Yields {P : Platform} {ε : Type} (x : Exec P (Except ε α)) (p : α → Prop) : Prop :=
  Gives (fun _ => True) x fun r _ => ∀ a, r = .ok a → p a

namespace Yields

variable {P : Platform} {β ε ε' : Type} {p : α → Prop}

theorem error {e : ε} : Yields (pure (.error e) : Exec P (Except ε α)) p :=
  Triple.pure fun _ _ => nofun

theorem ok {a : α} (h : p a) : Yields (pure (.ok a) : Exec P (Except ε α)) p := by
  apply Triple.pure
  rintro _ - _ ⟨⟩
  exact h

theorem after {x : Exec P β} {f : β → Exec P (Except ε α)} (hf : ∀ b, Yields (f b) p) :
    Yields (x >>= f) p :=
  Triple.bind Triple.any hf

/-- A result is gone on with if it is no failure. -/
theorem bind {x : Exec P (Except ε' β)} {q : β → Prop} {f : Except ε' β → Exec P (Except ε α)}
    (hx : Yields x q) (hok : ∀ b, q b → Yields (f (.ok b)) p)
    (herror : ∀ e, Yields (f (.error e)) p) :
    Yields (x >>= f) p := by
  apply Triple.bind hx
  intro r
  apply Triple.of_pre
  intro s h
  cases r with
  | ok b => exact (hok b (h b rfl)).of_imp fun _ _ => trivial
  | error e => exact (herror e).of_imp fun _ _ => trivial

end Yields

theorem Host.resolving_yields {P : Platform} {β : Type} {call : HostCall P} {found : β → HostCall P}
    {x : Exec P (Except HostError β)} {p : β → Prop} (hx : Yields x p) :
    Yields (Host.resolving call found x) p := by
  refine .after fun _ => hx.bind (fun b h => .after fun _ => .ok h) fun e => .error

/-! ### Look-ups of the Java VM -/

/-- What is known of a class and one of its members: under the name and for the key, the Java VM
finds no other ones, and it has room for references. -/
structure JavaVm.FindsOnly (J : JavaVm N (Exec N.platform)) (key : MemberKey) (c : N.Class)
    (id : N.MemberId) : Prop where
  findClass : Gives (fun _ => True) (J.findClass (JavaHost.internalName key.className))
    fun r _ => ∀ d, r.value = some d → d = c
  findMember : Gives (fun _ => True) (J.findMember (some c) key.kind.javaSort
    (JavaHost.tableName key) key.signature) fun r _ => ∀ i, r.value = some i → i = id
  hasRoom : Gives (fun _ => True) J.hasRoom fun room _ => room = true

namespace JavaVm.FindsOnly

variable {J : JavaVm N (Exec N.platform)} {key : MemberKey} {c : N.Class} {id : N.MemberId}
  {p : α → Prop}

omit α in
theorem nonNull {place : String} {γ : Type} {p : γ → Prop}
    {x : Exec N.platform (Raised (Option γ))}
    (hx : Gives (fun _ => True) x fun r _ => ∀ d, r.value = some d → p d) :
    Yields (JavaThread.nonNull place x) p := by
  have called : Gives (fun _ => True) (JavaThread.call x) fun v _ => ∀ d, v = some d → p d := by
    refine Triple.bind hx fun r => ?_
    have given (y : Exec N.platform PUnit) : Gives (fun _ => ∀ d, r.value = some d → p d)
        (do y; return r.value) fun v _ => ∀ d, v = some d → p d :=
      Triple.of_pre fun s h => Triple.bind Triple.any fun _ => Triple.pure fun _ _ => h
    cases r.exception with
    | none => exact Triple.pure fun _ h => h
    | some text => exact given _
  have checked : Yields (JavaThread.checked x) fun v => ∀ d, v = some d → p d := by
    refine Triple.bind called fun v => Triple.of_pre fun s h => ?_
    refine Triple.bind Triple.any fun pending => ?_
    split
    · exact Triple.pure fun _ _ => nofun
    · exact (Yields.ok h).of_imp fun _ _ => trivial
  refine checked.bind (fun v h => ?_) fun e => .error
  cases v with
  | none => exact .error
  | some d => exact .ok (h d rfl)

theorem settle {during : String} {r : Except JavaError α} (hr : ∀ a, r = .ok a → p a) :
    Yields (JavaThread.settle (N := N) during r) p := by
  refine .after fun pending => ?_
  cases pending with
  | some text => exact .after fun _ => .after fun _ => .error
  | none =>
    cases r with
    | error e => exact .error
    | ok a => exact .ok (hr a rfl)

/-- What comes after a result with the exception that may be pending. -/
theorem settled {β : Type} {during : String} {q : β → Prop}
    {x : Exec N.platform (Except JavaError α)} {ε : Type}
    {f : Except HostError α → Exec N.platform (Except ε β)} (hx : Yields x p)
    (hok : ∀ a, p a → Yields (f (.ok a)) q) (herror : ∀ e, Yields (f (.error e)) q) :
    Yields (do f (← JavaThread.settle (N := N) during (← x))) q := by
  refine hx.bind (fun a h => (settle ?_).bind hok herror) fun e => (settle nofun).bind hok herror
  rintro _ ⟨⟩
  exact h

variable (only : J.FindsOnly key c id)
include only

theorem pin (l : Local α) : Yields (JavaThread.pin J l) fun p => p.target = some l.target := by
  have made : Yields (JavaThread.newPin J l.target) fun p => p.target = some l.target := by
    refine .after fun told => ?_
    split
    · refine Triple.bind only.hasRoom fun room => Triple.of_pre fun s full => ?_
      subst full
      rintro t rfl p ⟨⟩
      rfl
    · exact .error
  exact made.bind (fun p h => .after fun _ => .ok h) fun e => .after fun _ => .error

theorem resolveType : Yields (JavaHost.resolveType J key.className) fun p => p.target = some c := by
  unfold JavaHost.resolveType
  refine .after fun r => ?_
  cases r with
  | error e => exact .error
  | ok _ =>
    refine settled (nonNull only.findClass) (fun d same => ?_) fun e => ?_
    · subst same
      have given : Gives (fun _ => True) (JavaThread.addLocal (N := N) d)
          fun l _ => l.target = d := fun _ _ => rfl
      refine Triple.bind given fun l => Triple.of_pre fun s same => ?_
      exact ((only.pin l).weaken fun _ _ h => same ▸ h).of_imp fun _ _ => trivial
    · cases e <;> exact .error

theorem resolveMember {type : Pin N.Class} (known : type.target = some c) :
    Yields (JavaHost.resolveMember J type key) fun m => m = ⟨key.kind.javaSort, id⟩ := by
  unfold JavaHost.resolveMember
  rw [known]
  refine .after fun r => ?_
  cases r with
  | error e => exact .error
  | ok _ =>
    refine settled (nonNull only.findMember) (fun i same => ?_) fun e => .error
    subst same
    exact .ok rfl

end JavaVm.FindsOnly

/-! ### The cache -/

/-- What the cache has under the name is a reference to the class, and what it has for the key is
the member. -/
structure Named (key : MemberKey) (c : N.Class) (id : N.MemberId) (s : State N.platform) :
    Prop where
  types : ∀ e ∈ s.bridge.members.types, e.1 = key.className → Pin.target e.2 = some c
  members : ∀ e ∈ s.bridge.members.members, e.1 = key → e.2 = JavaMember.mk key.kind.javaSort id

namespace Named

variable {key : MemberKey} {c : N.Class} {id : N.MemberId} {s : State N.platform}

theorem inert : Inert (Named (N := N) key c id) (Named key c id) where
  memory _ h := ⟨h.types, h.members⟩
  report _ h := ⟨h.types, h.members⟩
  halts _ h := h
  handles _ h := ⟨h.types, h.members⟩
  sides _ _ h := ⟨h.types, h.members⟩

theorem addType {name : String} {type : Pin N.Class} (h : Named key c id s)
    (known : name = key.className → type.target = some c) :
    (name = key.className → Pin.target (s.bridge.members.addType name type).1 = some c) ∧
      Named key c id { s with bridge :=
        { s.bridge with members := (s.bridge.members.addType name type).2.2 } } := by
  obtain ⟨there, only, members⟩ := s.bridge.members.addType_spec name type
  have types : ∀ e ∈ (s.bridge.members.addType name type).2.2.types, e.1 = key.className →
      Pin.target e.2 = some c := by
    intro e mem same
    rcases only e mem with old | rfl
    · exact h.types e old same
    · exact known same
  refine ⟨types _ there, types, ?_⟩
  rw [members]
  exact h.members

theorem addMember {key' : MemberKey} {member : JavaMember N.MemberId} (h : Named key c id s)
    (known : key' = key → member = ⟨key.kind.javaSort, id⟩) :
    (key' = key → (s.bridge.members.addMember key' member).1 = ⟨key.kind.javaSort, id⟩) ∧
      Named key c id { s with bridge :=
        { s.bridge with members := (s.bridge.members.addMember key' member).2 } } := by
  obtain ⟨there, only, types⟩ := s.bridge.members.addMember_spec key' member
  have members : ∀ e ∈ (s.bridge.members.addMember key' member).2.members, e.1 = key →
      e.2 = JavaMember.mk key.kind.javaSort id := by
    intro e mem same
    rcases only e mem with old | rfl
    · exact h.members e old same
    · exact known same
  refine ⟨members _ there, ?_, members⟩
  rw [types]
  exact h.types


/-! ### Calls of the interface -/

/-- What a look-up gives that keeps the cache as it was. -/
theorem resolved {β : Type} {call : HostCall N.platform} {found : β → HostCall N.platform}
    {x : Exec N.platform (Except HostError β)} {p : β → Prop}
    (kept : Keeps (Named key c id) (Named key c id) x) (yields : Yields x p) :
    Triple (Named key c id) (Host.resolving call found x) (fun r s => match r with
      | .ok b => p b ∧ Named key c id s
      | .error _ => Named key c id s) (Named key c id) (Named key c id) := by
  have recorded (e : Happening N.platform) :
      Keeps (Named key c id) (Named key c id) (Exec.record e) :=
    Keeps.record fun _ h => ⟨h.types, h.members⟩
  have asked : Keeps (Named key c id) (Named key c id) (Host.resolving call found x) := by
    refine (recorded _).bind fun _ => kept.bind fun r => ?_
    cases r with
    | ok b => exact (recorded _).bind fun _ => Keeps.pure
    | error e => exact Keeps.pure
  have given : Yields (Host.resolving call found x) p := Host.resolving_yields yields
  refine (Triple.with_gives asked (given.of_imp fun _ _ => trivial)).weaken fun r s h => ?_
  cases r with
  | ok b => exact ⟨h.2 b rfl, h.1⟩
  | error e => exact h.1

section
variable {S : Process.Surroundings N (Exec N.platform)}
  {extra : {α : Type} → N.Extra α → Exec N.platform α} (only : S.java.FindsOnly key c id)
  (each : S.Each fun x => Keeps (Named key c id) (Named key c id) x)
include each

theorem contract : ProcessContract S (Named key c id) (Named key c id)
    fun p s => S.java.Makes p.target.isSome ∧ Named key c id s where
  toJavaContract := each.java.contract fun h _ members => ⟨members ▸ h.types, members ▸ h.members⟩
  beside h same :=
    ⟨State.members_of_holdings same ▸ h.types, State.members_of_holdings same ▸ h.members⟩
  halts _ h := h
  library := each.library
  handler := each.handler
  sink := each.sink

include only

/-- A type that was asked for by the name is a reference to the class. -/
theorem type (name : String) :
    Triple (Named key c id) (Members.type (Process.foreign S extra) name) (fun r s => match r with
      | .ok type => (name = key.className → Pin.target type = some c) ∧ Named key c id s
      | .error _ => Named key c id s) (Named key c id) (Named key c id) := by
  apply Members.type_triple fun token s =>
    (name = key.className → Pin.target token = some c) ∧ Named key c id s
  · intro r s l w h
    cases r with
    | ok type => exact ⟨h.1, inert.sides l w h.2⟩
    | error e => exact inert.sides l w h
  · exact fun s type h there => ⟨h.types _ (MemberCache.mem_of_lookup there), h⟩
  · rw [Host.callResolveType_eq]
    have yields : Yields (JavaHost.resolveType S.java name) fun type =>
        name = key.className → type.target = some c := by
      by_cases same : name = key.className
      · subst same
        exact only.resolveType.weaken fun _ _ h type given _ => h type given
      · exact Triple.any.weaken fun _ _ _ _ _ equal => absurd equal same
    refine (resolved ((contract each).resolveType name |>.keeps And.right) yields).weaken ?_
    rintro (e | type) s h
    · exact h
    · exact h
  · exact fun token s h => h.2.addType h.1

/-- A member that was asked for by the key is the one that is known. -/
theorem member {type : N.platform.Class} {key' : MemberKey}
    (known : key'.className = key.className → Pin.target type = some c) :
    Keeps (Named key c id) (Named key c id)
      (Members.member (Process.foreign S extra) type key') := by
  apply Members.member_triple fun token s =>
    (key' = key → token = JavaMember.mk key.kind.javaSort id) ∧ Named key c id s
  · exact fun s m h _ => h
  · rw [Host.callResolveMember_eq]
    have yields : Yields (JavaHost.resolveMember S.java type key') fun member =>
        key' = key → member = ⟨key.kind.javaSort, id⟩ := by
      by_cases same : key' = key
      · subst same
        exact (only.resolveMember (known rfl)).weaken fun _ _ h member given _ => h member given
      · exact Triple.any.weaken fun _ _ _ _ _ equal => absurd equal same
    refine (resolved ((contract each).resolveMember type key') yields).weaken ?_
    rintro (e | member) s h
    · exact h
    · exact h
  · exact fun token s h => (h.2.addMember h.1).2

/-- From the look-up of its type on, a call knows what it may look up on that. -/
def calls : CallContract (Process.foreign S extra) (Named key c id)
    (fun _ : Unit => Named key c id) (Named key c id) where
  Le _ _ := True
  typeKnown _ name type := name = key.className → Pin.target type = some c
  memberKnown _ _ _ := True
  forget h := h
  typeKnown_mono _ h := h
  outer := inert.withstands _
  inner _ := inert.withstands _
  type name := (type only each name).weaken fun r s h => by
    cases r with
    | ok type => exact ⟨(), h⟩
    | error e => exact h
  member _ type key known := (member only each known).weaken fun r s h => by
    cases r with
    | ok member => exact ⟨(), ⟨trivial, trivial⟩, h⟩
    | error e => exact h
  construct _ key type member args _ := ((contract each).record _).bind fun _ =>
    ((contract each).construct type member args).keeps And.right
  invoke _ key receiver member result args _ := ((contract each).record _).bind fun _ =>
    ((contract each).invoke receiver member result args).keeps And.right
  readField _ key receiver member kind _ := ((contract each).record _).bind fun _ =>
    ((contract each).readField receiver member kind).keeps And.right
  writeField _ key receiver member value _ := ((contract each).record _).bind fun _ =>
    (contract each).writeField receiver member value

theorem op (o : Op N.platform α) :
    Keeps (Named key c id) (Named key c id) (o.run (Process.foreign S extra)) := by
  have session : SessionBlind (Process.foreign S extra) (Named key c id) (Named key c id) := {
    toUseBlind := (contract each).blind
    handles := inert.handles
    sides := inert.sides
    handlers := fun _ h => ⟨h.types, h.members⟩
    cleared := fun _ => ⟨nofun, nofun⟩ }
  by_cases plain : o.isPlain = true
  · exact (inert.withstands _).plain_keeps o plain
  by_cases clears : o.isClearing = true
  · cases o with
    | shutdown => exact (SessionContract.ofBlind fun _ : Unit => session).shutdown_keeps ()
    | clearMembers => exact session.clearMembers_keeps
    | _ => cases clears
  · have interface : InterfaceContract (Process.foreign S extra) (Named key c id)
        (Named key c id) :=
      (contract each).interface fun o about => (calls only each).about_keeps o about
    exact interface.op_keeps o (Bool.eq_false_iff.mpr plain) (Bool.eq_false_iff.mpr clears)

theorem act (others : ∀ {β : Type} (o : N.Extra β),
      Keeps (Named key c id) (Named key c id) (extra o)) (a : Act N.platform α) :
    Keeps (Named key c id) (Named key c id) (a.run (Process.foreign S extra)) := by
  induction a with
  | pure a => exact Keeps.pure
  | bind x f ihx ihf => exact ihx.bind ihf
  | panic m => exact Keeps.panic
  | attempt x ih => exact ih.attempt
  | note n => exact Keeps.record fun s h => ⟨h.types, h.members⟩
  | world f => exact fun s h => inert.sides s.ledger _ h
  | op o => exact op only each o
  | extra o =>
    cases o with
    | inl r => exact (contract each).request r
    | inr o => exact others o

end
end Named

/-! ### Programs -/

namespace Process

variable {S : Surroundings N (Act N.platform)} {extra : {α : Type} → N.Extra α → Act N.platform α}
  {key : MemberKey} {c : N.Class} {id : N.MemberId}

/-- In no run, however deep, does the Java VM find another class under the name, nor another member
of it for the key, and it has room for references. -/
structure Surroundings.FindsOnly (S : Surroundings N (Act N.platform)) (key : MemberKey)
    (c : N.Class) (id : N.MemberId) : Prop where
  findClass : ∀ F s d e t,
    (S.java.findClass (JavaHost.internalName key.className)).run F s = (.value ⟨some d, e⟩, t) →
      d = c
  findMember : ∀ F s i e t,
    (S.java.findMember (some c) key.kind.javaSort (JavaHost.tableName key) key.signature).run F s =
      (.value ⟨some i, e⟩, t) → i = id
  hasRoom : ∀ F s room t, S.java.hasRoom.run F s = (.value room, t) → room = true

/-- What comes of a computation in every run comes of it at any depth. -/
theorem gives_exec {β : Type} {a : Act N.platform β} {p : β → Prop}
    (h : ∀ F s b t, a.run F s = (.value b, t) → p b) (limit : Nat) :
    Gives (fun _ => True) ((system S extra).exec limit a) fun b _ => p b := by
  intro s _
  cases limit with
  | zero => trivial
  | succ limit =>
    rcases run : (system S extra).exec (limit + 1) a s with ⟨b | m | w, t⟩
    · exact h _ s b t run
    · trivial
    · trivial

theorem Surroundings.FindsOnly.exec (only : S.FindsOnly key c id) (limit : Nat) :
    (S.map fun a => (system S extra).exec limit a).java.FindsOnly key c id where
  findClass := gives_exec (fun F s r t run d given => by
    cases r
    subst given
    exact only.findClass F s d _ t run) limit
  findMember := gives_exec (fun F s r t run i given => by
    cases r
    subst given
    exact only.findMember F s i _ t run) limit
  hasRoom := gives_exec only.hasRoom limit

/-- Whatever programs do, and however deep, the cache has nothing else under the name and for the
key. -/
theorem exec_named (only : S.FindsOnly key c id) (limit : Nat) (a : Act N.platform α) :
    Keeps (Named key c id) (Named key c id) ((system S extra).exec limit a) := by
  induction limit generalizing α with
  | zero => exact Keeps.halt fun _ h => h
  | succ limit ih =>
    exact Named.act (only.exec limit) (S.each_map ih) (fun _ => ih _) a

theorem runTurns_named (only : S.FindsOnly key c id) (limit : Nat)
    (turns : List (ThreadId × Act N.platform Unit)) {s : State N.platform}
    (h : Named key c id s) : Named key c id ((system S extra).runTurns limit turns s) :=
  System.runTurns_keeps (fun _ h => h) (fun _ _ h => ⟨h.types, h.members⟩)
    (fun a => exec_named only limit a) turns h

end Process
end HostBridge
