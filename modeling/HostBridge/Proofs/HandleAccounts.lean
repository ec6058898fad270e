import HostBridge.Proofs.Permits
import HostBridge.Proofs.Stages

/-!
No hidden handles. An operation keeps at most one object of what the host gives it, and its caller
is told the handle. So the handles that are live at the end of a run are those that callers were
told, at whatever depth of the calls they stood, without those that were released since.
-/
namespace HostBridge

variable {P : Platform} {α β : Type}

/-! ### One operation -/

namespace Operation

/-- Whether a deed keeps nothing, and the host did not give what would have to be kept. -/
def Idle (o : Operation α) (d : Deed P) : Prop :=
  d.KeepsHandles ∧ ∀ a reply, a.isLookup = false → d = .asked a (.value (.ok reply)) →
    o.kept reply = none

/-- What an operation keeps of the answers of the host is what it returns: one object in the end, if
the host gave one that is asked for after what was looked up, and otherwise nothing. -/
inductive Accounts (o : Operation α) : Outcome α → List (Deed P) → Prop
  | kept {before a reply x h} (prelude : ∀ d ∈ before, d.isPrelude = true)
      (use : a.isLookup = false) (some : o.kept reply = some x) :
    Accounts o (.value (o.ofHandle h))
      (before ++ [.asked a (.value (.ok reply))] ++ [.stored x h])
  | idle {out ds} (idle : ∀ d ∈ ds, o.Idle d) : Accounts o out ds

section
variable {o : Operation α} {ds : List (Deed P)}

theorem idle_of_prelude (prelude : ∀ d ∈ ds, d.isPrelude = true) : ∀ d ∈ ds, o.Idle d := by
  intro d mem
  refine ⟨d.keepsHandles_of_prelude (prelude d mem), fun a reply use same => ?_⟩
  have lookup := prelude d mem
  rw [same] at lookup
  exact absurd (use.symm.trans lookup) Bool.false_ne_true

theorem idle_reported (e : Diagnostic) : o.Idle (.reported e : Deed P) :=
  ⟨trivial, fun _ _ _ => nofun⟩

theorem idle_concat {last : Deed P} (before : ∀ d ∈ ds, o.Idle d) (idle : o.Idle last) :
    ∀ d ∈ ds ++ [last], o.Idle d :=
  List.forall_mem_append.mpr ⟨before, List.forall_mem_singleton.mpr idle⟩

/-- Whoever is not answered has nothing to keep. -/
theorem idle_unanswered {a : Ask P} {came : Outcome (Except HostError (HostReply P))}
    {out : Outcome (Except CallError β)} (stops : Stops came out) : o.Idle (.asked a came) :=
  ⟨trivial, fun a' reply use same => by cases stops <;> cases same⟩

end

/-- What an attempt has done when it ends without an answer. -/
theorem Attempted.idle {o : Operation α} {out : Outcome (Except CallError α)}
    {ds : List (Deed P)} (h : Attempted o out ds) (unanswered : ∀ b, out ≠ .value (.ok b)) :
    ∀ d ∈ ds, o.Idle d := by
  cases h with
  | refused why => exact List.forall_mem_nil _
  | atType stops => exact List.forall_mem_singleton.mpr (idle_unanswered stops)
  | wildWord typed => exact idle_of_prelude typed.prelude
  | noReceiver typed on =>
    exact idle_concat (idle_of_prelude typed.prelude) ⟨trivial, fun _ _ _ => nofun⟩
  | atMember received stops =>
    exact idle_concat (idle_of_prelude received.prelude) (idle_unanswered stops)
  | wildArgument reached => exact idle_of_prelude reached.prelude
  | atUse reached uses stops =>
    exact idle_concat (idle_of_prelude reached.prelude) (idle_unanswered stops)
  | done => exact absurd rfl (unanswered _)
  | kept => exact absurd rfl (unanswered _)

/-- Every operation accounts for what it keeps. -/
theorem run_accounts (F : Foreign P (Exec P)) (o : Operation α) (s : State P) :
    Tells F s [] (o.op.run F) o.Accounts := by
  refine o.run_tells s (fun b ds attempted => ?_)
    (fun e ds attempted => .idle (idle_concat (attempted.idle nofun) (idle_reported _)))
    (fun m ds attempted => .idle (attempted.idle nofun))
    fun w ds attempted => .idle (attempted.idle nofun)
  cases attempted with
  | atType stops => nomatch stops
  | atMember received stops => nomatch stops
  | atUse reached uses stops => nomatch stops
  | done reached uses none =>
    refine .idle (idle_concat (idle_of_prelude reached.prelude) ⟨trivial, ?_⟩)
    intro a reply use same
    cases same
    exact none
  | kept reached uses some => exact .kept reached.prelude uses.isLookup_eq some

end Operation

/-! ### Calls of the interface -/

/-- The deeds of a preload, by how far it came: it is refused for its descriptor, or it asks for the
type and then for the member. -/
inductive Preloaded (key : MemberKey) : List (Deed P) → Prop
  | refused : Preloaded key []
  | atType (came) : Preloaded key [.asked (.type key.className) came]
  | atMember {c ds} (typed : Typed key.className c ds) (came) :
    Preloaded key (ds ++ [.asked (.member c key) came])
  | done {c m ds es} (typed : Typed key.className c ds) (membered : Membered c key m es) :
    Preloaded key (ds ++ es)

theorem Call.preload_tells (F : Foreign P (Exec P)) (key : MemberKey) (s : State P) :
    Tells F s [] (Call.preload F key).run fun _ => Preloaded key := by
  have resolves (t : State P) :
      Tells F t [] (Call.withType F key.className fun type => do
        discard <| Call.ofHost (Members.member F type key)).run fun _ => Preloaded key := by
    refine Call.tells_withType (fun came _ _ => .atType came) fun c t ds typed => ?_
    exact Call.tells_ofHost (Members.member_tells F t c key) (fun came _ _ => .atMember typed came)
      fun m u es membered => .pure (.done typed membered)
  unfold Call.preload
  split
  · cases Descriptor.parseField key.signature with
    | error e => exact .pure .refused
    | ok d => exact resolves s
  · cases Descriptor.parseMethod key.signature with
    | error e => exact .pure .refused
    | ok d => exact resolves s

namespace Preloaded

variable {key : MemberKey} {ds : List (Deed P)}

/-- A preload only looks up. -/
theorem prelude (preloaded : Preloaded key ds) : ∀ d ∈ ds, d.isPrelude = true := by
  cases preloaded with
  | refused => exact List.forall_mem_nil _
  | atType came => exact List.forall_mem_singleton.mpr rfl
  | atMember typed came =>
    exact List.forall_mem_append.mpr ⟨typed.prelude, List.forall_mem_singleton.mpr rfl⟩
  | done typed membered => exact List.forall_mem_append.mpr ⟨typed.prelude, membered.prelude⟩

/-- A preload learns only what the host gave. -/
theorem fromHost (preloaded : Preloaded key ds) : FromHost ds := by
  cases preloaded with
  | refused => exact .nil
  | atType came => exact FromHost.nil.asked
  | atMember typed came => exact typed.fromHost.asked
  | done typed membered => exact typed.fromHost.append membered.fromHost

end Preloaded

namespace Op

/-- Whether a call of the interface may move objects in or out of the table. -/
def movesHandles : Op P α → Bool
  | createObject .. | callMethod .. | getField .. | setField .. => true
  | copyHandle _ | release _ | releaseAll => true
  | _ => false

/-- What a call of the interface puts into the table or takes out of it its caller is told. -/
inductive Accounts : {α : Type} → Op P α → Outcome α → List (Deed P) → Prop
  | operation {α : Type} {o : Operation α} {out : Outcome α} {ds : List (Deed P)}
      (accounts : o.Accounts out ds) : Accounts o.op out ds
  | copiedNull {g} : Accounts (.copyHandle g) (.value .null) []
  | copied {g x h} : Accounts (.copyHandle g) (.value h) [.stored x h]
  | released {h found} : Accounts (.release h) (.value found) [.released h found]
  | releasedAll {n} : Accounts .releaseAll (.value n) [.releasedAll n]
  | other {α : Type} {o : Op P α} {out : Outcome α} {ds : List (Deed P)}
      (other : o.movesHandles = false) (keep : ∀ d ∈ ds, d.KeepsHandles) : Accounts o out ds

variable (F : Foreign P (Exec P)) (s : State P)

theorem duplicate_accounts (g : Handle) :
    Tells F s [] (duplicate F g) (Op.copyHandle g).Accounts := by
  obtain ⟨t, run, quiet⟩ := Objects.lookup_quiet F g s
  refine .after_quiet run quiet ?_
  rw [← bind_pure (Objects.store F _)]
  refine Call.tells_store (fun _ => ?_) fun x h t _ => ?_
  · exact .pure .copiedNull
  · exact .pure .copied

theorem release_accounts (h : Handle) :
    Tells F s [] (Objects.release F h) (Op.release h).Accounts := by
  have does := Deed.Does.released (s := s) (h := h)
  unfold Objects.release
  refine .after_quiet (x := Exec.bridge _) rfl .refl ?_
  rcases got : s.bridge.handles.release h with ⟨found, table⟩
  rw [got] at does
  refine .after_deed does .refl rfl ?_
  cases found with
  | none => exact .pure .released
  | some x => exact .after_hushed (Hushed.upkeep _) fun _ _ => .pure .released

theorem releaseAll_accounts : Tells F s [] (Objects.releaseAll F) Op.releaseAll.Accounts := by
  refine .after_quiet (x := Exec.bridge _) rfl .refl ?_
  refine .after_deed .releasedAll .refl rfl ?_
  exact .after_hushed (Hushed.forM (fun _ => Hushed.upkeep _) _) fun _ _ => .pure .releasedAll

theorem clearMembers_accounts : Tells F s [] (Members.clear F) Op.clearMembers.Accounts := by
  refine .after_quiet (x := Exec.bridge _) rfl .refl ?_
  refine .after_deed .cleared .refl rfl ?_
  refine .after_hushed (Hushed.forM (fun _ => Hushed.upkeep _) _) fun _ _ => .pure ?_
  exact .other rfl (List.forall_mem_singleton.mpr trivial)

/-- Every dynamic call of the interface accounts for what it puts into the table and takes out. -/
theorem run_accounts (o : Op P α) (hostly : o.isHostly = true) :
    Tells F s [] (o.run F) o.Accounts := by
  have idle {β : Type} {o : Op P β} (other : o.movesHandles = false) (out : Outcome β) :
      o.Accounts out [] := .other other (List.forall_mem_nil _)
  cases o with
  | createObject className signature words =>
    exact ((Operation.create className signature words).run_accounts F s).weaken
      fun _ _ => .operation
  | callMethod target className name signature requested words =>
    exact ((Operation.call target className name signature requested words).run_accounts F s).weaken
      fun _ _ => .operation
  | getField target className name descriptor requested =>
    exact ((Operation.get target className name descriptor requested).run_accounts F s).weaken
      fun _ _ => .operation
  | setField target className name descriptor requested w =>
    exact ((Operation.set target className name descriptor requested w).run_accounts F s).weaken
      fun _ _ => .operation
  | copyHandle g => exact duplicate_accounts F s g
  | release h => exact release_accounts F s h
  | releaseAll => exact releaseAll_accounts F s
  | preload key =>
    refine (Call.preload_tells F key s).weaken fun _ ds preloaded => .other rfl fun d mem => ?_
    exact d.keepsHandles_of_prelude (preloaded.prelude d mem)
  | clearMembers => exact clearMembers_accounts F s
  | handleCount => exact .of_hushed (Hushed.gets _) fun n => idle rfl (.value n)
  | memberCounts => exact .of_hushed (Hushed.gets _) fun n => idle rfl (.value n)
  | place bytes =>
    refine .of_hushed ((Hushed.gets _).bind fun m => Hushed.bind ?_ fun _ => Hushed.pure _)
      fun a => idle rfl (.value a)
    exact fun t => ⟨(), _, rfl, .aside _ t.ledger t.world⟩
  | readBuffer address =>
    refine .after_hushed (Hushed.gets _) fun buffer t => ?_
    cases buffer with
    | none => exact ⟨[], .here, idle rfl _⟩
    | some bytes => exact .pure (idle rfl _)
  | free address =>
    exact .of_hushed (fun t => ⟨(), _, rfl, .aside _ t.ledger t.world⟩) fun n =>
      idle rfl (.value n)
  | report d =>
    exact ⟨[.reported d], .own .reported .here, .other rfl (List.forall_mem_singleton.mpr trivial)⟩
  | _ => cases hostly

end Op

end HostBridge
