import HostBridge.Proofs.Alike
import HostBridge.Proofs.FoundOnce

/-!
When the host is asked. It is asked for what is not in the cache, hence again after a look-up that
failed, and it is not asked by operations whose type and member are there, as they are after a
preload.
-/
namespace HostBridge

open Exec

variable {P : Platform} {α : Type}

/-! ### Records that grow -/

/-- States that have come by a certain record. -/
def GrownFrom (r : List (Happening P)) (s : State P) : Prop := r <:+ s.record

namespace GrownFrom

variable {r : List (Happening P)}

theorem record {e : Happening P} {s : State P} (h : GrownFrom r s) :
    GrownFrom r { s with record := e :: s.record } :=
  h.trans (List.suffix_cons e s.record)

theorem inert : Inert (GrownFrom r) (GrownFrom r) where
  handles _ h := h
  memory _ h := h
  sides _ _ h := h
  report _ h := h.record
  halts _ h := h

end GrownFrom

/-- From `s`, the host is asked for something right away, and that is on record however it ends. -/
def Asks (s : State P) (call : HostCall P) (x : Exec P α) : Prop :=
  Triple (· = s) x (fun _ => GrownFrom (.host call :: s.record))
    (GrownFrom (.host call :: s.record)) (GrownFrom (.host call :: s.record))

namespace Asks

variable {F : Foreign P (Exec P)} {s : State P}

/-- What comes after keeps what is on record. -/
theorem bind {β : Type} {call : HostCall P} {x : Exec P α} {f : α → Exec P β} (hx : Asks s call x)
    (hf : ∀ a, Keeps (GrownFrom (.host call :: s.record)) (GrownFrom (.host call :: s.record))
      (f a)) : Asks s call (x >>= f) :=
  Triple.bind hx hf

theorem record (call : HostCall P) : Asks s call (Exec.record (.host call)) := by
  refine Triple.record fun t same => ?_
  rw [same]
  exact List.suffix_rfl

theorem resolving {β : Type} (call : HostCall P) (found : β → HostCall P)
    {x : Exec P (Except HostError β)} (grows : ∀ r, Keeps (GrownFrom r) (GrownFrom r) x) :
    Asks s call (Host.resolving call found x) := by
  refine (record call).bind fun _ => (grows _).bind fun r => ?_
  cases r with
  | error e => exact Keeps.pure
  | ok token => exact (Keeps.record fun _ h => h.record).bind fun _ => Keeps.pure

/-- What comes after a state was read, which changes nothing. -/
theorem of_bridge {β : Type} {call : HostCall P} {g : Bridge P → α} {f : α → Exec P β}
    (h : Asks s call (f (g s.bridge))) : Asks s call (Exec.bridge g >>= f) := by
  intro t same
  cases same
  exact h s rfl

/-- The host is asked for a type that is not in the cache. -/
theorem type {name : String} (missing : s.bridge.members.hasType name = false)
    (grows : ∀ r, Keeps (GrownFrom r) (GrownFrom r) (F.host.resolveType name)) :
    Asks s (.resolveType name) (Members.type F name) := by
  have uncached : s.bridge.members.type? name = none := by
    simpa [MemberCache.hasType] using missing
  have asked : Asks s (.resolveType name) (F.host.callResolveType name) := by
    rw [Host.callResolveType_eq]
    exact resolving _ _ grows
  unfold Members.type
  refine of_bridge ?_
  rw [uncached]
  refine asked.bind fun r => ?_
  cases r with
  | error e => exact Keeps.pure
  | ok token =>
    refine Keeps.bridge.bind fun cache => ?_
    rcases cache.addType name token with ⟨kept, fresh, cache'⟩
    refine Keeps.bind (Keeps.modify fun _ h => h) fun _ => ?_
    cases fresh with
    | false =>
      exact Keeps.bind (GrownFrom.inert.upkeep _) fun _ =>
        Keeps.bind (GrownFrom.inert.upkeep _) fun _ => Keeps.pure
    | true => exact Keeps.bind (GrownFrom.inert.upkeep _) fun _ => Keeps.pure

/-- The host is asked for a member that is not in the cache. -/
theorem member {type : P.Class} {key : MemberKey}
    (missing : s.bridge.members.hasMember key = false)
    (grows : ∀ r, Keeps (GrownFrom r) (GrownFrom r) (F.host.resolveMember type key)) :
    Asks s (.resolveMember type key) (Members.member F type key) := by
  have uncached : s.bridge.members.member? key = none := by
    simpa [MemberCache.hasMember] using missing
  have asked : Asks s (.resolveMember type key) (F.host.callResolveMember type key) := by
    rw [Host.callResolveMember_eq]
    exact resolving _ _ grows
  unfold Members.member
  refine of_bridge ?_
  rw [uncached]
  refine asked.bind fun r => ?_
  cases r with
  | error e => exact Keeps.pure
  | ok token =>
    refine Keeps.bridge.bind fun cache => ?_
    rcases cache.addMember key token with ⟨kept, cache'⟩
    exact Keeps.bind (Keeps.modify fun _ h => h) fun _ => Keeps.pure

end Asks

/-! ### What look-ups leave in the cache -/

namespace System

variable {F : Foreign P (Act P)} (lookups : F.LookupsWithin .aside) {limit : Nat} {s t : State P}
include lookups

/-- A look-up of a type that fails leaves the cache as it is, without an entry. -/
theorem type_failed {name : String} {e : HostError}
    (ran : Members.type ((ofPrograms F).foreign limit) name s = (.value (.error e), t)) :
    t.bridge.members = s.bridge.members ∧ s.bridge.members.hasType name = false := by
  have h := type_asked lookups limit name s s.bridge.members s ⟨rfl, .refl⟩
  rw [ran] at h
  exact ⟨h.2.1.symm, h.1⟩

theorem member_failed {type : P.Class} {key : MemberKey} {e : HostError}
    (ran : Members.member ((ofPrograms F).foreign limit) type key s = (.value (.error e), t)) :
    t.bridge.members = s.bridge.members ∧ s.bridge.members.hasMember key = false := by
  have h := member_asked lookups limit type key s s.bridge.members s ⟨rfl, .refl⟩
  rw [ran] at h
  exact ⟨h.2.1.symm, h.1⟩

/-- A preload that succeeds leaves its type and its member in the cache. -/
theorem preload_fills {key : MemberKey}
    (ran : (Call.preload ((ofPrograms F).foreign limit) key).run s = (.value (.ok ()), t)) :
    t.bridge.members.Knows key := by
  have typed : Gives (FilledFrom.At s s.bridge.members)
      (Members.type ((ofPrograms F).foreign limit) key.className) (fun r t => ∀ type, r = .ok type →
        t.bridge.members.hasType key.className = true ∧ FilledFrom s t) := by
    refine (type_asked lookups limit _ s _).gives.weaken fun r u h type same => ?_
    subst same
    exact h
  have found (type : P.Class) : Gives
      (fun t => t.bridge.members.hasType key.className = true ∧ FilledFrom s t)
      (Members.member ((ofPrograms F).foreign limit) type key)
      (fun r t => ∀ m, r = .ok m → t.bridge.members.Knows key) := by
    refine Triple.of_pre fun u hu => ?_
    have asked := (member_asked lookups limit type key s u.bridge.members).gives
    refine (asked.of_imp fun v same => ?_).weaken fun r v h m same => ?_
    · rw [same]
      exact ⟨rfl, hu.2⟩
    · subst same
      refine ⟨?_, h.1.1⟩
      rw [MemberCache.hasType, h.1.2]
      exact hu.1
  have filled := Call.preload_gives (fun _ _ known => known) typed found
  have here : FilledFrom.At s s.bridge.members s := ⟨rfl, .refl⟩
  have started : ∀ u, u = s → FilledFrom.At s s.bridge.members u := fun _ same => same ▸ here
  exact (filled.of_imp started).of_value ran rfl

end System

/-! ### Operations whose type and member are in the cache -/

/-- The same foreign code with other look-ups. -/
def Foreign.withLookups (F : Foreign P (Exec P))
    (X : String → Exec P (Except HostError P.Class))
    (Y : P.Class → MemberKey → Exec P (Except HostError P.Member)) : Foreign P (Exec P) :=
  { F with host := { F.host with resolveType := X, resolveMember := Y } }

namespace Known

/-- States with a certain cache. -/
def Cache (c : MemberCache P.Class P.Member) (s : State P) : Prop := s.bridge.members = c

variable {c : MemberCache P.Class P.Member}

theorem inert : Inert (Cache c) (Cache c) where
  handles _ h := h
  memory _ h := h
  sides _ _ h := h
  report _ h := h
  halts _ h := h

variable (F : Foreign P (Exec P))

/-- A type that is in the cache is shared. -/
theorem type_agree {name : String} {token : P.Class} (found : c.type? name = some token) :
    Agree (Cache c) (Members.type F name) (do
      F.host.shareType token
      return .ok token) := by
  intro s hs
  unfold Members.type
  rw [run_bind, Exec.bridge, run_gets, hs]
  dsimp only
  rw [found]

theorem member_agree {type : P.Class} {key : MemberKey} {token : P.Member}
    (found : c.member? key = some token) :
    Agree (Cache c) (Members.member F type key) (pure (.ok token)) := by
  intro s hs
  unfold Members.member
  rw [run_bind, Exec.bridge, run_gets, hs]
  dsimp only
  rw [found]

variable (X : String → Exec P (Except HostError P.Class))
  (Y : P.Class → MemberKey → Exec P (Except HostError P.Member))

/-- Look-ups have no part in reading words. -/
theorem decode_eq (kind : ValueKind) (w : Word) :
    Call.decode (F.withLookups X Y) kind w = Call.decode F kind w := by
  cases kind <;> rfl

theorem withArgs_eq (params : List ValueKind) (words : List Word)
    (body : List (HostValue P.Object) → Call P α) :
    Call.withArgs (F.withLookups X Y) params words body = Call.withArgs F params words body := by
  have each :
      Call.decodeEach (F.withLookups X Y) params words = Call.decodeEach F params words := by
    induction params generalizing words with
    | nil => rfl
    | cons kind kinds ih =>
      cases words with
      | nil => simp only [Call.decodeEach, ih]
      | cons w words => simp only [Call.decodeEach, ih, decode_eq]
  unfold Call.withArgs Call.decodeArgs
  rw [each]
  rfl

section
variable {key : MemberKey} (known : c.Knows key)
include known

/-- Both go on with the type that is in the cache. -/
theorem withType_agree {body body' : P.Class → Call P α}
    (hbody : ∀ type, Agree (Cache c) (body type).run (body' type).run) :
    Agree (Cache c) (Call.withType (F.withLookups X Y) key.className body).run
      (Call.withType F key.className body').run := by
  obtain ⟨token, found⟩ := Option.isSome_iff_exists.mp known.1
  have shared : Gives (Cache c) (Members.type F key.className) (fun _ => Cache c) := by
    have kept : Gives (Cache c) (F.host.shareType token) (fun _ => Cache c) :=
      (inert.upkeep (E := Cache c) _).gives
    have shared : Gives (Cache c) (do
        F.host.shareType token
        return .ok token : Exec P (Except HostError P.Class)) (fun _ => Cache c) :=
      kept.bind fun _ => Triple.pure fun _ h => h
    intro s hs
    rw [type_agree F found s hs]
    exact shared s hs
  refine Call.agree_ofHost_bind (fun s hs => ?_) shared fun type => (hbody type).ensure
  exact (type_agree (F.withLookups X Y) found s hs).trans (type_agree F found s hs).symm

/-- Both go on with the member that is in the cache, from where look-ups have no part any more. -/
theorem withMember_agree {type : P.Class} {body body' : P.Member → Call P α}
    (same : ∀ member, body member = body' member) :
    Agree (Cache c) (Call.ofHost (Members.member (F.withLookups X Y) type key) >>= body).run
      (Call.ofHost (Members.member F type key) >>= body').run := by
  obtain rfl : body = body' := funext same
  obtain ⟨token, found⟩ := Option.isSome_iff_exists.mp known.2
  refine Call.agree_ofHost_bind (J := fun _ => True) (fun s hs => ?_) Triple.any fun _ => Agree.refl
  exact (member_agree (F.withLookups X Y) found s hs).trans (member_agree F found s hs).symm

end

/-- Both go on with the receiver. -/
theorem withReceiver_agree {target : Call.Target} {type : P.Class}
    {body body' : Receiver P.Object P.Class → Call P α}
    (hbody : ∀ receiver, Agree (Cache c) (body receiver).run (body' receiver).run) :
    Agree (Cache c) (Call.withReceiver (F.withLookups X Y) target type body).run
      (Call.withReceiver F target type body').run := by
  cases target with
  | static => exact hbody _
  | «instance» h =>
    have looked : Gives (Cache c) (liftM (Objects.lookup F h) : Call P (Option P.Object)).run
        (fun _ => Cache c) :=
      Triple.bind ((inert.withstands F).lookup h).gives fun _ => Triple.pure fun _ h => h
    refine Call.agree_bind (x := liftM (Objects.lookup (F.withLookups X Y) h)) Agree.refl looked
      fun found => ?_
    cases found with
    | none => exact Agree.refl
    | some o => exact (hbody _).ensure

/-! Operations -/

theorem construct_agree {signature : String} {words : List Word} {className : String}
    (known : c.Knows ⟨className, Call.constructorName, signature, .constructor⟩) :
    Agree (Cache c) (Call.construct (F.withLookups X Y) className signature words).run
      (Call.construct F className signature words).run := by
  unfold Call.construct
  refine Call.agree_bind_result fun d => ?_
  split
  · exact Call.agree_throw_bind
  · refine withType_agree F X Y known fun type => withMember_agree F X Y known fun member => ?_
    exact withArgs_eq F X Y d.params words _

variable {target : Call.Target} {className name signature : String} {requested : ValueKind}

theorem invoke_agree {words : List Word}
    (known : c.Knows ⟨className, name, signature, target.methodKind⟩) : Agree (Cache c)
      (Call.invoke (F.withLookups X Y) target className name signature requested words).run
      (Call.invoke F target className name signature requested words).run := by
  unfold Call.invoke
  refine Call.agree_bind_result fun d => Call.agree_bind_result fun kind => ?_
  refine withType_agree F X Y known fun type => withReceiver_agree F X Y fun receiver =>
    withMember_agree F X Y known fun member => ?_
  exact withArgs_eq F X Y d.params words _

theorem read_agree (known : c.Knows ⟨className, name, signature, target.fieldKind⟩) :
    Agree (Cache c) (Call.read (F.withLookups X Y) target className name signature requested).run
      (Call.read F target className name signature requested).run := by
  unfold Call.read
  refine Call.agree_bind_result fun declared => Call.agree_bind_result fun kind => ?_
  exact withType_agree F X Y known fun type => withReceiver_agree F X Y fun receiver =>
    withMember_agree F X Y known fun _ => rfl

theorem write_agree {w : Word} (known : c.Knows ⟨className, name, signature, target.fieldKind⟩) :
    Agree (Cache c)
      (Call.write (F.withLookups X Y) target className name signature requested w).run
      (Call.write F target className name signature requested w).run := by
  unfold Call.write
  refine Call.agree_bind_result fun declared => ?_
  split
  · exact Call.agree_throw_bind
  · refine withType_agree F X Y known fun type => ?_
    have decoded : Gives (Cache c) (liftM (Call.decode F declared w) : Call P _).run
        (fun _ => Cache c) :=
      Triple.bind ((inert.withstands F).decode declared w).gives fun _ => Triple.pure fun _ h => h.2
    rw [decode_eq]
    refine Call.agree_bind Agree.refl decoded fun value => Agree.ensure ?_
    exact withReceiver_agree F X Y fun receiver => withMember_agree F X Y known fun _ => rfl

theorem preload_agree {key : MemberKey} (known : c.Knows key) :
    Agree (Cache c) (Call.preload (F.withLookups X Y) key).run (Call.preload F key).run := by
  have resolved : Agree (Cache c)
      (Call.withType (F.withLookups X Y) key.className fun type => do
        discard <| Call.ofHost (Members.member (F.withLookups X Y) type key)).run
      (Call.withType F key.className fun type => do
        discard <| Call.ofHost (Members.member F type key)).run :=
    withType_agree F X Y known fun type => withMember_agree F X Y known fun _ => rfl
  have read {d : Type} {r : Except DescriptorError d} : Gives (Cache c)
      (discard (Call.ofDescriptor r) : Call P Unit).run (fun _ => Cache c) := by
    cases r <;> exact Triple.pure fun _ h => h
  unfold Call.preload
  split
  · exact Call.agree_bind Agree.refl read fun _ => resolved
  · exact Call.agree_bind Agree.refl read fun _ => resolved

end Known

open Known in
/-- An operation makes no look-up if its type and its member are in the cache: whatever look-ups
would do, it does the same. -/
theorem Op.run_known (F : Foreign P (Exec P)) {o : Op P α} {key : MemberKey}
    (about : o.key? = some key) {s : State P} (known : s.bridge.members.Knows key)
    (X : String → Exec P (Except HostError P.Class))
    (Y : P.Class → MemberKey → Exec P (Except HostError P.Member)) :
    o.run (F.withLookups X Y) s = o.run F s := by
  suffices agree : Agree (Cache s.bridge.members) (o.run (F.withLookups X Y)) (o.run F) from
    agree s rfl
  have settled {x y : Call P Word} (call : CallName) (className member : String)
      (h : Agree (Cache s.bridge.members) x.run y.run) : Agree (Cache s.bridge.members)
        (Dynamic.settle call className member x) (Dynamic.settle call className member y) :=
    Agree.bind_same h
  cases o with
  | createObject className signature words =>
    cases about
    exact Agree.bind_same (construct_agree F X Y known)
  | callMethod target className name signature requested words =>
    cases about
    exact settled _ _ _ (invoke_agree F X Y known)
  | getField target className name descriptor requested =>
    cases about
    exact settled _ _ _ (read_agree F X Y known)
  | setField target className name descriptor requested w =>
    cases about
    exact Agree.bind_same (settled _ _ _ (Agree.bind_same (write_agree F X Y known)))
  | preload key =>
    cases about
    exact preload_agree F X Y known
  | _ => cases about

end HostBridge
