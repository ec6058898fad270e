import HostBridge.Proofs.KeptMembers
import HostBridge.Proofs.Plain

/-!
The class of a cached member is in the cache. A member is looked up on the type that is kept for its
class, and both stay until a clear drops them together; the one way to drop the type alone would be
a clear between the look-up of the member and its entry, so none may come in the midst of a look-up.
-/
namespace HostBridge

open Exec

variable {P : Platform} {α : Type}

/-! ### Runs in which no look-up is disturbed -/

/-- The same program, with a panic in the place of each shutdown and each clear of the cache. -/
def Act.sheltered {α : Type} : Act P α → Act P α
  | .bind x f => .bind x.sheltered fun b => (f b).sheltered
  | .attempt x => .attempt x.sheltered
  | .op o => if o.isClearing then .panic "the cache is in use" else .op o
  | .pure a => .pure a
  | .panic message => .panic message
  | .note n => .note n
  | .world f => .world f
  | .extra o => .extra o

theorem Act.sheltered_neverClears (a : Act P α) : a.sheltered.NeverClears := by
  induction a with
  | bind x f ihx ihf => exact ⟨ihx, ihf⟩
  | attempt x ih => exact ih
  | op o =>
    unfold Act.sheltered
    split
    · trivial
    · rename_i other
      exact Bool.eq_false_iff.mpr other
  | pure a => trivial
  | panic message => trivial
  | note n => trivial
  | world f => trivial
  | extra o => trivial

theorem Act.sheltered_eq {a : Act P α} (never : a.NeverClears) : a.sheltered = a := by
  induction a with
  | bind x f ihx ihf =>
    rw [Act.sheltered, ihx never.1]
    congr
    funext b
    exact ihf b (never.2 b)
  | attempt x ih => rw [Act.sheltered, ih never]
  | op o =>
    have other : o.isClearing = false := never
    rw [Act.sheltered, other]
    rfl
  | pure a => rfl
  | panic message => rfl
  | note n => rfl
  | world f => rfl
  | extra o => rfl

namespace System

/-- Foreign code as programs that are run by `run`, which is told whether a member is being looked
up: it is from the look-up of a member on, and as long as the look-up it is part of goes on. -/
def shelterForeign (F : Foreign P (Act P)) (run : Bool → {α : Type} → Act P α → Exec P α)
    (looking : Bool) : Foreign P (Exec P) :=
  { F.map (run looking) with
    host := { F.host.map (run looking) with
      resolveMember := fun type key => run true (F.host.resolveMember type key) } }

/-- Runs a program as in the system of `F`, but that a shutdown or a clear of the cache panics while
a member is being looked up. -/
def execSheltered (F : Foreign P (Act P)) : Nat → Bool → {α : Type} → Act P α → Exec P α
  | 0, _, _, _ => Exec.halt .nesting
  | limit + 1, looking, _, a =>
    (if looking then a.sheltered else a).run
      (shelterForeign F (fun l _ b => execSheltered F limit l b) looking)

/-- No shutdown and no clear of the cache runs while a member is being looked up: each turn comes
out as if there they panicked. -/
def Undisturbed (F : Foreign P (Act P)) (limit : Nat) :
    List (ThreadId × Act P Unit) → State P → Prop
  | [], _ => True
  | (thread, a) :: rest, s =>
    (ofPrograms F).exec limit a { s with thread := thread } =
        execSheltered F limit false a { s with thread := thread } ∧
      match (ofPrograms F).exec limit a { s with thread := thread } with
      | (.halt _, _) => True
      | (_, s) => Undisturbed F limit rest s

section
variable {F : Foreign P (Act P)} (never : F.NeverClears)
include never

/-- Foreign code that clears nothing has nothing to panic for. -/
theorem execSheltered_eq (limit : Nat) (looking : Bool) (a : Act P α)
    (calm : looking = true → a.NeverClears) :
    execSheltered F limit looking a = (ofPrograms F).exec limit a := by
  induction limit generalizing looking α with
  | zero => rfl
  | succ limit ih =>
    have program : (if looking then a.sheltered else a) = a := by
      cases looking with
      | false => rfl
      | true => exact Act.sheltered_eq (calm rfl)
    have same (l : Bool) {β : Type} {b : Act P β} (hb : b.NeverClears) :
        execSheltered F limit l b = (ofPrograms F).exec limit b := ih l b fun _ => hb
    have code : shelterForeign F (fun l _ b => execSheltered F limit l b) looking =
        F.map fun b => (ofPrograms F).exec limit b := by
      simp only [shelterForeign, Foreign.map, Host.map, Vm.map, same _ (never.resolveType _),
        same _ (never.resolveMember _ _), same _ (never.construct _ _ _),
        same _ (never.invoke _ _ _ _), same _ (never.readField _ _ _),
        same _ (never.writeField _ _ _), same _ (never.start _), same _ (never.loadImage _),
        same _ (never.enterIsolate _), same _ never.exitIsolate, same _ never.enterScope,
        same _ never.exitScope, same _ (never.entryPoint _), same _ never.drain,
        same _ (never.shutdownIsolate _), same _ never.stop, same _ (never.handler _ _ _),
        same _ (never.sink _ _ _), same _ (never.extra _)]
    rw [execSheltered, program, code]
    rfl

theorem undisturbed (limit : Nat) (turns : List (ThreadId × Act P Unit)) (s : State P) :
    Undisturbed F limit turns s := by
  induction turns generalizing s with
  | nil => trivial
  | cons turn rest ih =>
    constructor
    · rw [execSheltered_eq never limit false turn.2 nofun]
    · split
      · trivial
      · exact ih _

end

end System

/-! ### States in which the class of a member is there -/

/-- The host gave the token of a member when it was asked for it on a type that it had given for the
class before. -/
def ResolvedOn (record : List (Happening P)) (type : P.Class) (key : MemberKey)
    (member : P.Member) : Prop :=
  ∃ later between earlier, record = later ++ .host (.memberFound key member) ::
      (between ++ .host (.resolveMember type key) :: earlier) ∧
    TypeFound earlier key.className type

theorem ResolvedOn.cons {record : List (Happening P)} {type : P.Class} {key : MemberKey}
    {member : P.Member} (h : ResolvedOn record type key member) (e : Happening P) :
    ResolvedOn (e :: record) type key member := by
  obtain ⟨later, between, earlier, rfl, found⟩ := h
  exact ⟨e :: later, between, earlier, rfl, found⟩

/-- Every type in the cache was given by the host for its name, and every member in the cache was
resolved on the type that is in the cache for its class. -/
structure Anchored (s : State P) : Prop where
  types : ∀ e ∈ s.bridge.members.types, TypeFound s.record e.1 e.2
  members : ∀ e ∈ s.bridge.members.members, ∃ type,
    s.bridge.members.type? e.1.className = some type ∧ ResolvedOn s.record type e.1 e.2

namespace Anchored

variable {s : State P}

theorem of_empty (empty : s.bridge.members = {}) : Anchored s := by
  constructor
  · rw [empty]
    nofun
  · rw [empty]
    nofun

theorem record (h : Anchored s) (e : Happening P) :
    Anchored { s with record := e :: s.record } where
  types entry mem := List.mem_cons_of_mem e (h.types entry mem)
  members entry mem := by
    obtain ⟨type, there, resolved⟩ := h.members entry mem
    exact ⟨type, there, resolved.cons e⟩

/-- The cache takes in a type that the host gave. -/
theorem addType {name : String} {token : P.Class} (h : Anchored s)
    (found : TypeFound s.record name token) :
    Anchored { s with bridge :=
      { s.bridge with members := (s.bridge.members.addType name token).2.2 } } := by
  have more := s.bridge.members.addType_extends name token
  obtain ⟨-, only, rest⟩ := s.bridge.members.addType_spec name token
  constructor
  · intro entry mem
    rcases only entry mem with old | rfl
    · exact h.types entry old
    · exact found
  · intro entry mem
    obtain ⟨type, there, resolved⟩ := h.members entry (rest ▸ mem)
    exact ⟨type, more.type there, resolved⟩

/-- The cache takes in a member that was resolved on the type that it has for the class. -/
theorem addMember {key : MemberKey} {type : P.Class} {token : P.Member} (h : Anchored s)
    (there : s.bridge.members.type? key.className = some type)
    (resolved : ResolvedOn s.record type key token) :
    Anchored { s with bridge :=
      { s.bridge with members := (s.bridge.members.addMember key token).2 } } := by
  have more := s.bridge.members.addMember_extends key token
  obtain ⟨-, only, rest⟩ := s.bridge.members.addMember_spec key token
  constructor
  · intro entry mem
    exact h.types entry (rest ▸ mem)
  · intro entry mem
    rcases only entry mem with old | rfl
    · obtain ⟨own, there, resolved⟩ := h.members entry old
      exact ⟨own, more.type there, resolved⟩
    · exact ⟨type, more.type there, resolved⟩

end Anchored

/-- A record and a cache that were there when the look-up of a member began. -/
structure Outset (P : Platform) where
  record : List (Happening P)
  cache : MemberCache P.Class P.Member

/-- Anchored states that, during a look-up, have kept what was there at its outset. -/
def AnchoredSince (outset : Option (Outset P)) (s : State P) : Prop :=
  Anchored s ∧
    ∀ o ∈ outset, o.record <:+ s.record ∧ o.cache.Extends s.bridge.members

namespace AnchoredSince

variable {outset : Option (Outset P)} {s : State P}

/-- The state at the outset of a look-up. -/
theorem atOutset (h : Anchored s) : AnchoredSince (some ⟨s.record, s.bridge.members⟩) s := by
  refine ⟨h, ?_⟩
  rintro o ⟨⟩
  exact ⟨List.suffix_rfl, .refl⟩

theorem record (h : AnchoredSince outset s) (e : Happening P) :
    AnchoredSince outset { s with record := e :: s.record } := by
  refine ⟨h.1.record e, fun o mem => ?_⟩
  obtain ⟨suffix, extended⟩ := h.2 o mem
  exact ⟨suffix.trans (List.suffix_cons _ _), extended⟩

theorem inert : Inert (AnchoredSince outset) (Anchored (P := P)) where
  handles _ h := ⟨⟨h.1.types, h.1.members⟩, h.2⟩
  memory _ h := ⟨⟨h.1.types, h.1.members⟩, h.2⟩
  sides _ _ h := ⟨⟨h.1.types, h.1.members⟩, h.2⟩
  report _ h := h.record _
  halts _ h := h.1

/-- What was there at a later outset was there at the earlier one. -/
theorem weaken {t : State P} (start : AnchoredSince outset s)
    (h : AnchoredSince (some ⟨s.record, s.bridge.members⟩) t) : AnchoredSince outset t := by
  refine ⟨h.1, fun o mem => ?_⟩
  obtain ⟨suffix, extended⟩ := start.2 o mem
  obtain ⟨suffix', extended'⟩ := h.2 _ rfl
  exact ⟨suffix.trans suffix', extended.trans extended'⟩

variable {F : Foreign P (Exec P)}

/-- What is known of a type from its look-up on: it is in the cache under its name. -/
def Typed (outset : Option (Outset P)) (known : String × P.Class) (s : State P) : Prop :=
  AnchoredSince outset s ∧ s.bridge.members.type? known.1 = some known.2

theorem Typed.inert {known : String × P.Class} :
    Inert (Typed outset known) (Anchored (P := P)) where
  handles step h := ⟨AnchoredSince.inert.handles step h.1, h.2⟩
  memory m h := ⟨AnchoredSince.inert.memory m h.1, h.2⟩
  sides l w h := ⟨AnchoredSince.inert.sides l w h.1, h.2⟩
  report d h := ⟨AnchoredSince.inert.report d h.1, h.2⟩
  halts _ h := h.1.1

/-- A type that was asked for is in the cache. -/
theorem type (name : String)
    (hx : Keeps (AnchoredSince outset) Anchored (F.host.resolveType name)) :
    Triple (AnchoredSince outset) (Members.type F name)
      (fun r s => match r with
        | .ok type => Typed outset (name, type) s
        | .error _ => AnchoredSince outset s) (AnchoredSince outset) Anchored := by
  apply Members.type_triple fun token s =>
    AnchoredSince outset s ∧ TypeFound s.record name token
  · intro r s l w h
    cases r with
    | ok type => exact Typed.inert.sides l w h
    | error e => exact inert.sides l w h
  · intro s type h there
    exact ⟨h, there⟩
  · rw [Host.callResolveType_eq]
    refine Triple.bind (Keeps.record fun s h => h.record _) fun _ => Triple.bind hx fun r => ?_
    cases r with
    | error e => exact Triple.pure fun s h => h
    | ok token =>
      have noted : Triple (AnchoredSince outset) (Exec.record (.host (.typeFound name token)))
          (fun _ s => AnchoredSince outset s ∧ TypeFound s.record name token)
          (AnchoredSince outset) Anchored :=
        Triple.record fun s h => ⟨h.record _, List.mem_cons_self⟩
      exact noted.bind fun _ => Triple.pure fun s h => h
  · intro token s h
    have there := s.bridge.members.type?_addType_self name token
    refine ⟨⟨h.1.1.addType h.2, fun o mem => ?_⟩, there⟩
    obtain ⟨suffix, extended⟩ := h.1.2 o mem
    exact ⟨suffix, extended.trans (s.bridge.members.addType_extends name token)⟩

/-- The host looks a member up. The outset is when its question is on record, with the type in the
cache; what is there then is there when it answers. -/
theorem resolvedMember (type : P.Class) (key : MemberKey)
    (hx : ∀ o, Keeps (AnchoredSince (some o)) Anchored (F.host.resolveMember type key)) :
    Triple (Typed outset (key.className, type)) (F.host.callResolveMember type key)
      (fun r s => match r with
        | .ok token => Typed outset (key.className, type) s ∧ ResolvedOn s.record type key token
        | .error _ => Typed outset (key.className, type) s) (AnchoredSince outset) Anchored := by
  rw [Host.callResolveMember_eq]
  apply Triple.of_pre
  rintro s ⟨start, there⟩
  let o : Outset P := ⟨.host (.resolveMember type key) :: s.record, s.bridge.members⟩
  have asked := start.record (.host (.resolveMember type key))
  have back {t : State P} (h : AnchoredSince (some o) t) : Typed outset (key.className, type) t :=
    ⟨asked.weaken h, (h.2 o rfl).2.type there⟩
  have began : Triple (· = s) (Exec.record (.host (.resolveMember type key)))
      (fun _ => AnchoredSince (some o)) (AnchoredSince outset) Anchored := by
    apply Triple.record
    rintro t rfl
    exact atOutset asked.1
  have looked := (hx o).conseq (fun _ h => h) (fun _ _ h => h) (fun _ h => asked.weaken h)
    fun _ h => h
  refine began.bind fun _ => looked.bind fun r => ?_
  cases r with
  | error e => exact Triple.pure fun t h => back h
  | ok token =>
    have found : TypeFound s.record key.className type :=
      start.1.types _ (MemberCache.mem_of_lookup there)
    have noted : Triple (AnchoredSince (some o)) (Exec.record (.host (.memberFound key token)))
        (fun _ t => Typed outset (key.className, type) t ∧ ResolvedOn t.record type key token)
        (AnchoredSince outset) Anchored := by
      apply Triple.record
      intro t h
      obtain ⟨between, record⟩ := (h.2 o rfl).1
      have now := back h
      exact ⟨⟨now.1.record _, now.2⟩, [], between, s.record, by rw [← record]; rfl, found⟩
    exact noted.bind fun _ => Triple.pure fun t h => h

/-- A member is entered while the type that it was looked up on is in the cache. -/
theorem member (type : P.Class) (key : MemberKey)
    (hx : ∀ o, Keeps (AnchoredSince (some o)) Anchored (F.host.resolveMember type key)) :
    Triple (Typed outset (key.className, type)) (Members.member F type key)
      (fun _ => Typed outset (key.className, type)) (AnchoredSince outset) Anchored := by
  apply Members.member_triple fun token s =>
    Typed outset (key.className, type) s ∧ ResolvedOn s.record type key token
  · intro s m h there
    exact h
  · exact resolvedMember type key hx
  · intro token s h
    obtain ⟨⟨h, there⟩, resolved⟩ := h
    have more := s.bridge.members.addMember_extends key token
    refine ⟨⟨h.1.addMember there resolved, fun o mem => ?_⟩, more.type there⟩
    obtain ⟨suffix, extended⟩ := h.2 o mem
    exact ⟨suffix, extended.trans more⟩

end AnchoredSince

/-! ### Programs -/

namespace System

variable {F : Foreign P (Act P)} {limit : Nat} {looking : Bool} {outset : Option (Outset P)}

section

variable (run : ∀ {β : Type} (b : Act P β),
  Keeps (AnchoredSince outset) Anchored (execSheltered F limit looking b))
  (lookup : ∀ {β : Type} (b : Act P β) o,
    Keeps (AnchoredSince (some o)) Anchored (execSheltered F limit true b))
include run

theorem anchored_blind :
    UseBlind (shelterForeign F (fun l _ b => execSheltered F limit l b) looking)
      (AnchoredSince outset) (Anchored (P := P)) where
  toDetached := AnchoredSince.inert.toDetached
  session _ _ _ _ h := ⟨⟨h.1.types, h.1.members⟩, h.2⟩
  vmCall _ _ h := h.record _
  callStart _ h := h.record _
  vmReturn _ h := h.record _
  start _ := run _
  loadImage _ := run _
  enterIsolate _ := run _
  exitIsolate := run _
  enterScope := run _
  exitScope := run _
  entryPoint _ := run _
  drain := run _
  shutdownIsolate _ := run _
  stop := run _
  handler _ _ _ := Keeps.bind (Keeps.record fun _ h => h.record _) fun _ => run _

include lookup

/-- From the look-up of the type to that of the member no foreign code runs, and in the midst of the
latter nothing is cleared. -/
def anchoredCalls :
    CallContract (shelterForeign F (fun l _ b => execSheltered F limit l b) looking)
      (AnchoredSince outset) (AnchoredSince.Typed outset) Anchored where
  Le := Eq
  typeKnown known name type := known = (name, type)
  memberKnown _ _ _ := True
  forget h := h.1
  typeKnown_mono same known := same ▸ known
  outer := AnchoredSince.inert.withstands _
  inner _ := AnchoredSince.Typed.inert.withstands _
  type name := (AnchoredSince.type name (run _)).weaken fun r s h => by
    cases r with
    | ok type => exact ⟨(name, type), rfl, h⟩
    | error e => exact h
  member known type key same := by
    subst same
    refine (AnchoredSince.member type key fun o => lookup _ o).weaken fun r s h => ?_
    cases r with
    | ok member => exact ⟨(key.className, type), ⟨rfl, trivial⟩, h⟩
    | error e => exact h.1
  construct _ _ _ _ _ _ := Triple.of_imp
    (Keeps.bind (Keeps.record fun _ h => h.record _) fun _ => run _) fun _ h => h.1
  invoke _ _ _ _ _ _ _ := Triple.of_imp
    (Keeps.bind (Keeps.record fun _ h => h.record _) fun _ => run _) fun _ h => h.1
  readField _ _ _ _ _ _ := Triple.of_imp
    (Keeps.bind (Keeps.record fun _ h => h.record _) fun _ => run _) fun _ h => h.1
  writeField _ _ _ _ _ _ := Triple.of_imp
    (Keeps.bind (Keeps.record fun _ h => h.record _) fun _ => run _) fun _ h => h.1

theorem anchored_interface :
    InterfaceContract (shelterForeign F (fun l _ b => execSheltered F limit l b) looking)
      (AnchoredSince outset) (Anchored (P := P)) :=
  .ofBlind (anchored_blind run) (fun _ _ h => ⟨⟨h.1.types, h.1.members⟩, h.2⟩)
    (fun _ h => ⟨⟨h.1.types, h.1.members⟩, h.2⟩)
    (fun _ _ _ => Keeps.bind (Keeps.record fun _ h => h.record _) fun _ => run _)
    fun o => (anchoredCalls run lookup).about_keeps o

omit lookup in
/-- Where no look-up is going on, a session may end and the cache be cleared. -/
theorem anchored_session (idle : outset = none) :
    SessionBlind (shelterForeign F (fun l _ b => execSheltered F limit l b) looking)
      (AnchoredSince outset) (Anchored (P := P)) where
  toUseBlind := anchored_blind run
  handles := AnchoredSince.inert.handles
  sides := AnchoredSince.inert.sides
  handlers _ h := ⟨⟨h.1.types, h.1.members⟩, h.2⟩
  cleared _ := by
    subst idle
    exact ⟨⟨nofun, nofun⟩, nofun⟩

theorem anchored_op (o : Op P α) (calm : o.isClearing = true → outset = none) :
    Keeps (AnchoredSince outset) Anchored
      (o.run (shelterForeign F (fun l _ b => execSheltered F limit l b) looking)) := by
  by_cases plain : o.isPlain = true
  · exact (AnchoredSince.inert.withstands _).plain_keeps o plain
  by_cases clears : o.isClearing = true
  · have session := anchored_session run (calm clears)
    cases o with
    | shutdown => exact (SessionContract.ofBlind fun _ : Unit => session).shutdown_keeps ()
    | clearMembers => exact session.clearMembers_keeps
    | _ => cases clears
  · exact (anchored_interface run lookup).op_keeps o (Bool.eq_false_iff.mpr plain)
      (Bool.eq_false_iff.mpr clears)

theorem anchored_act (a : Act P α) (calm : outset = none ∨ a.NeverClears) :
    Keeps (AnchoredSince outset) Anchored
      (a.run (shelterForeign F (fun l _ b => execSheltered F limit l b) looking)) := by
  induction a with
  | pure a => exact Keeps.pure
  | bind x f ihx ihf =>
    refine (ihx (calm.imp_right And.left)).bind fun b => ihf b (calm.imp_right fun h => h.2 b)
  | panic message => exact Keeps.panic
  | attempt x ih => exact (ih calm).attempt
  | note n => exact Keeps.record fun s h => h.record _
  | world f => exact fun s h => AnchoredSince.inert.sides s.ledger _ h
  | op o =>
    refine anchored_op run lookup o fun clears => calm.resolve_right fun never => ?_
    have other : o.isClearing = false := never
    rw [clears] at other
    cases other
  | extra o => exact run _

end

/-- A program in the shelter keeps what was there at the outset of a look-up. -/
theorem execSheltered_keeps (F : Foreign P (Act P)) (limit : Nat) (looking : Bool) (a : Act P α)
    (outset : Option (Outset P)) (calm : outset = none ∨ looking = true) :
    Keeps (AnchoredSince outset) Anchored (execSheltered F limit looking a) := by
  induction limit generalizing looking α outset with
  | zero => exact Keeps.halt fun _ h => h.1
  | succ limit ih =>
    apply anchored_act
    · intro β b
      exact ih looking b outset calm
    · intro β b o
      exact ih true b (some o) (.inr rfl)
    · cases looking with
      | true => exact .inr a.sheltered_neverClears
      | false => exact .inl (calm.resolve_right nofun)

/-- The class of every cached member is in the cache, with the token that the member was resolved
on; and that token the host had given for the class. So it is after any programs, whatever the host
does besides, if nothing is cleared while a member is being looked up. -/
theorem memberClass_pinned (F : Foreign P (Act P)) (limit : Nat)
    (turns : List (ThreadId × Act P Unit)) {s : State P} (new : s.bridge.members = {})
    (undisturbed : Undisturbed F limit turns s) :
    Anchored ((ofPrograms F).runTurns limit turns s) := by
  have start := Anchored.of_empty new
  clear new
  induction turns generalizing s with
  | nil => exact start
  | cons turn rest ih =>
    obtain ⟨thread, a⟩ := turn
    obtain ⟨same, later⟩ := undisturbed
    have kept := execSheltered_keeps F limit false a none (.inl rfl) { s with thread := thread }
      ⟨⟨start.types, start.members⟩, nofun⟩
    rw [← same] at kept
    unfold runTurns
    rcases ran : (ofPrograms F).exec limit a { s with thread := thread } with ⟨r | m | w, t⟩ <;>
      rw [ran] at kept later
    · exact ih later kept.1
    · exact ih later kept.1
    · exact kept

end System

/-! ### A host that nests its look-ups -/

namespace Plain

/-- The member that is looked up in the midst of the look-up of another one. -/
def innerKey : MemberKey := ⟨"Point", "x", "()I", .method⟩

/-- The plain world with a host whose look-up of constructors preloads another member of the class
first. -/
def preloading : Foreign platform (Act platform) :=
  { idle with
    host := { host with
      resolveMember := fun _ key =>
        if key.kind = .constructor then
          (Act.op (.preload innerKey)).bind fun _ => pure (.ok key)
        else pure (.ok key) } }

theorem preloading_neverClears : preloading.NeverClears where
  resolveType _ := trivial
  resolveMember _ key := by
    show (if key.kind = .constructor then _ else _ : Act platform _).NeverClears
    split
    · exact ⟨rfl, fun _ => trivial⟩
    · trivial
  construct _ _ _ := trivial
  invoke _ _ _ _ := trivial
  readField _ _ _ := trivial
  writeField _ _ _ := trivial
  start _ := trivial
  loadImage _ := trivial
  enterIsolate _ := trivial
  exitIsolate := trivial
  enterScope := trivial
  exitScope := trivial
  entryPoint _ := trivial
  drain := trivial
  shutdownIsolate _ := trivial
  stop := trivial
  handler _ _ _ := trivial
  sink _ _ _ := trivial
  extra o := nomatch o

/-- Two members are looked up, and the cache is cleared in between. -/
def preloads : Act platform Unit :=
  (Act.op (.preload innerKey)).bind fun _ => (Act.op .clearMembers).bind fun _ =>
    (Act.op (.preload ⟨"Point", "<init>", "()V", .constructor⟩)).bind fun _ => pure ()

end Plain

namespace System

/-- The type, the constructor and the member that was preloaded for it are in the cache. -/
theorem memberClass_pinned_plain :
    Plain.start.bridge.members = {} ∧
      Undisturbed Plain.preloading 3 [(0, Plain.preloads)] Plain.start ∧
      ((ofPrograms Plain.preloading).runTurns 3 [(0, Plain.preloads)]
        Plain.start).bridge.members.size = 3 ∧
      Anchored ((ofPrograms Plain.preloading).runTurns 3 [(0, Plain.preloads)] Plain.start) := by
  have undisturbed := undisturbed Plain.preloading_neverClears 3 [(0, Plain.preloads)] Plain.start
  have size : ((ofPrograms Plain.preloading).runTurns 3 [(0, Plain.preloads)]
      Plain.start).bridge.members.size = 3 := by
    decide +kernel
  exact ⟨rfl, undisturbed, size, memberClass_pinned Plain.preloading 3 _ rfl undisturbed⟩

end System

end HostBridge
