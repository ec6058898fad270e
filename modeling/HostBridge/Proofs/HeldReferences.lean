import HostBridge.Proofs.HandleAccounts
import HostBridge.Proofs.HostCalls
import HostBridge.Proofs.SessionBlind

/-!
Where the references come from that a bridge holds. The table of handles and the cache take in only
what the host gave when it was asked. So what is so of all references that the host gives is so of
all that a bridge holds, at any depth of foreign code.
-/
namespace HostBridge

open Exec

variable {P : Platform} {α : Type} {object : P.Object → Prop} {type : P.Class → Prop}

/-- The objects behind all handles are of a sort, and so are all types in the cache. -/
structure Holds (object : P.Object → Prop) (type : P.Class → Prop) (s : State P) : Prop where
  objects : ∀ e ∈ s.bridge.handles.entries, object e.2
  types : ∀ e ∈ s.bridge.members.types, type e.2

/-- The references in an answer of the host are of the sorts. -/
def HostReply.Fits (object : P.Object → Prop) (type : P.Class → Prop) (reply : HostReply P) :
    Prop :=
  (∀ x, reply.object? = some x → object x) ∧ ∀ c, reply = .type c → type c

/-- What a deed adds to what is held is of the sorts. -/
def Deed.Adds (object : P.Object → Prop) (type : P.Class → Prop) : Deed P → Prop
  | .stored x _ => object x
  | .learntType _ c => type c
  | _ => True

namespace Holds

variable {s t : State P} (h : Holds object type s)
include h

/-- Nothing was added. -/
theorem less (handles : t.bridge.handles.entries ⊆ s.bridge.handles.entries)
    (types : t.bridge.members.types ⊆ s.bridge.members.types) : Holds object type t where
  objects e mem := h.objects e (handles mem)
  types e mem := h.types e (types mem)

theorem quiet (quiet : Quiet s t) : Holds object type t := by
  obtain ⟨reported, bridge⟩ := quiet.bridge
  apply h.less
  · rw [bridge]
    exact List.Subset.refl _
  · rw [bridge]
    exact List.Subset.refl _

theorem insert {x : P.Object} (hx : object x) : Holds object type
    { s with bridge := { s.bridge with handles := (s.bridge.handles.insert x).2 } } where
  objects e mem := by
    rw [HandleTable.entries_insert] at mem
    rcases List.mem_cons.mp mem with rfl | old
    · exact hx
    · exact h.objects e (HandleTable.mem_of_mem_erase old)
  types := h.types

theorem release (k : Handle) : Holds object type
    { s with bridge := { s.bridge with handles := (s.bridge.handles.release k).2 } } := by
  refine h.less ?_ (List.Subset.refl _)
  show (s.bridge.handles.release k).2.entries ⊆ _
  unfold HandleTable.release
  split
  · exact List.Subset.refl _
  · split
    · exact fun e => HandleTable.mem_of_mem_erase
    · exact List.Subset.refl _

theorem does {d : Deed P} (does : d.Does s t) (adds : d.Adds object type) :
    Holds object type t := by
  cases does with
  | @learntType _ name c =>
    obtain ⟨-, only, -⟩ := s.bridge.members.addType_spec name c
    refine ⟨h.objects, fun e mem => ?_⟩
    rcases only e mem with old | rfl
    · exact h.types e old
    · exact adds
  | @learntMember _ key m =>
    obtain ⟨-, -, types⟩ := s.bridge.members.addMember_spec key m
    exact ⟨h.objects, fun e mem => h.types e (types ▸ mem)⟩
  | stored => exact h.insert adds
  | released => exact h.release _
  | releasedAll => exact h.less (List.nil_subset _) (List.Subset.refl _)
  | cleared => exact h.less (List.Subset.refl _) (List.nil_subset _)
  | _ => exact ⟨h.objects, h.types⟩

end Holds

/-! ### Deeds -/

namespace Trail

variable {F : Foreign P (Exec P)} {s t : State P} {ds : List (Deed P)}

/-- What is told of the host did happen. -/
theorem run_of_asked (trail : Trail F s ds t) {a : Ask P}
    {came : Outcome (Except HostError (HostReply P))} (asked : .asked a came ∈ ds) :
    ∃ u v, a.run F.host u = (came, v) := by
  induction trail with
  | here => cases asked
  | quiet _ _ ih => exact ih asked
  | asked run _ ih =>
    rcases List.mem_cons.mp asked with same | later
    · cases same
      exact ⟨_, _, run⟩
    · exact ih later
  | own does _ ih =>
    rcases List.mem_cons.mp asked with rfl | later
    · cases does
    · exact ih later

/-- What is added is what the host gave. -/
theorem adds (trail : Trail F s ds t) (fromHost : FromHost ds)
    (replies : ∀ a : Ask P, Gives (fun _ => True) (a.run F.host)
      fun r _ => ∀ reply, r = .ok reply → reply.Fits object type) :
    ∀ d ∈ ds, d.Adds object type := by
  intro d mem
  have given {a : Ask P} {reply : HostReply P} (asked : .asked a (.value (.ok reply)) ∈ ds) :
      reply.Fits object type := by
    obtain ⟨u, v, run⟩ := trail.run_of_asked asked
    have answer := replies a u trivial
    rw [run] at answer
    exact answer reply rfl
  have source := fromHost d mem
  cases d with
  | stored x k =>
    obtain ⟨a, reply, asked, some⟩ := source
    exact (given asked).1 x some
  | learntType name c => exact (given source).2 c rfl
  | _ => trivial

theorem holds (trail : Trail F s ds t) (adds : ∀ d ∈ ds, d.Adds object type)
    (asks : ∀ a : Ask P, Keeps (Holds object type) (Holds object type) (a.run F.host))
    (h : Holds object type s) : Holds object type t := by
  induction trail with
  | here => exact h
  | quiet between _ ih => exact ih adds (h.quiet between)
  | @asked s t _ _ a came run _ ih =>
    have after := asks a s h
    rw [run] at after
    refine ih (fun d mem => adds d (List.mem_cons_of_mem _ mem)) ?_
    rcases came with r | m | w
    · exact after
    · exact after
    · exact after
  | own does _ ih =>
    exact ih (fun d mem => adds d (List.mem_cons_of_mem _ mem))
      (h.does does (adds _ List.mem_cons_self))

end Trail

/-! ### Calls of the interface -/

/-- Foreign code that gives only references of the sorts, and after which a bridge holds only such
if it did before. -/
structure HeldContract (F : Foreign P (Exec P)) (object : P.Object → Prop) (type : P.Class → Prop) :
    Prop extends UseBlind F (Holds object type) (Holds object type) where
  replies : ∀ a : Ask P, Gives (fun _ => True) (a.run F.host)
    fun r _ => ∀ reply, r = .ok reply → reply.Fits object type
  asks : ∀ a : Ask P, Keeps (Holds object type) (Holds object type) (a.run F.host)
  sink : ∀ s player text, Keeps (Holds object type) (Holds object type) (F.callSink s player text)
  extra : ∀ {β : Type} (o : P.Extra β), Keeps (Holds object type) (Holds object type) (F.extra o)

namespace HeldContract

variable {F : Foreign P (Exec P)} (C : HeldContract F object type)
include C

/-- What stores and learns only what the host gave. -/
theorem of_tells {x : Exec P α} {post : Outcome α → List (Deed P) → Prop}
    (tells : ∀ s, Tells F s [] x post) (fromHost : ∀ out ds, post out ds → FromHost ds) :
    Keeps (Holds object type) (Holds object type) x := by
  intro s h
  obtain ⟨ds, trail, p⟩ := tells s
  have held := trail.holds (trail.adds (fromHost _ ds p) C.replies) C.asks h
  rcases run : x s with ⟨a | m | w, t⟩ <;> rw [run] at held <;> exact held

theorem operation (o : Operation α) :
    Keeps (Holds object type) (Holds object type) (o.op.run F) := by
  rw [Operation.run_eq]
  refine (C.of_tells o.attempt_tells fun _ _ => Operation.Attempted.fromHost).bind fun r => ?_
  cases r with
  | ok a => exact Keeps.pure
  | error e => exact (C.toDetached.sendReport _).bind fun _ => Keeps.pure

theorem about (o : Op P α) (about : o.key?.isSome = true) :
    Keeps (Holds object type) (Holds object type) (o.run F) := by
  cases o with
  | createObject className signature words =>
    exact C.operation (.create className signature words)
  | callMethod target className name signature requested words =>
    exact C.operation (.call target className name signature requested words)
  | getField target className name descriptor requested =>
    exact C.operation (.get target className name descriptor requested)
  | setField target className name descriptor requested w =>
    exact C.operation (.set target className name descriptor requested w)
  | preload key => exact C.of_tells (Call.preload_tells F key) fun _ _ h => h.fromHost
  | _ => cases about

omit C in
theorem upkeep (f : P.Ledger → P.World → P.Ledger × P.World) :
    Keeps (Holds object type) (Holds object type) (Exec.upkeep f) :=
  Keeps.modify fun _ h => ⟨h.objects, h.types⟩

omit C in
/-- The object of a copy is one that is held already. -/
theorem copy (k : Handle) : Keeps (Holds object type) (Holds object type)
    ((Op.copyHandle k).run F) := by
  have looked : Triple (Holds object type) (Objects.lookup F k)
      (fun o s => (∀ x, o = some x → object x) ∧ Holds object type s)
      (Holds object type) (Holds object type) := by
    intro s h
    obtain ⟨t, run, quiet⟩ := Objects.lookup_quiet F k s
    rw [run]
    refine ⟨fun x found => ?_, h.quiet quiet⟩
    exact h.objects _ (MemberCache.mem_of_lookup (HandleTable.find?_of_get found))
  refine looked.bind fun o => Triple.of_and fun held => ?_
  cases o with
  | none => exact fun s h => ⟨h.objects, h.types⟩
  | some x =>
    intro s h
    obtain ⟨t, run, quiet⟩ := Objects.store_quiet F x s
    rw [run]
    exact (h.insert (held x rfl)).quiet quiet

omit C in
theorem release (k : Handle) : Keeps (Holds object type) (Holds object type)
    (Objects.release F k) := by
  unfold Objects.release
  refine Triple.bind Triple.asks fun table => ?_
  have taken : Triple (fun s => table = s.bridge.handles ∧ Holds object type s)
      (Exec.update fun b : Bridge P => { b with handles := (table.release k).2 })
      (fun _ => Holds object type) (Holds object type) (Holds object type) := by
    apply Triple.update
    rintro s ⟨rfl, h⟩
    exact h.release k
  rcases got : table.release k with ⟨found, table'⟩
  rw [got] at taken
  refine taken.bind fun _ => ?_
  cases found with
  | none => exact Keeps.pure
  | some o => exact (upkeep _).bind fun _ => Keeps.pure

omit C in
theorem releaseAll : Keeps (Holds object type) (Holds object type) (Objects.releaseAll F) := by
  refine Keeps.bridge.bind fun table => ?_
  have emptied : Keeps (Holds object type) (Holds object type)
      (Exec.update fun b : Bridge P => { b with handles := table.releaseAll.2 }) :=
    Triple.update fun s h => ⟨nofun, h.types⟩
  exact emptied.bind fun _ => (Keeps.forM (fun _ => upkeep _) _).bind fun _ => Keeps.pure

omit C in
theorem clearMembers : Keeps (Holds object type) (Holds object type) (Members.clear F) := by
  refine Keeps.bridge.bind fun cache => ?_
  have emptied : Keeps (Holds object type) (Holds object type)
      (Exec.update fun b : Bridge P => { b with members := b.members.clear }) :=
    Triple.update fun s h => ⟨h.objects, nofun⟩
  exact emptied.bind fun _ => (Keeps.forM (fun _ => upkeep _) _).bind fun _ => Keeps.pure

theorem plain (o : Op P α) (plain : o.isPlain = true) :
    Keeps (Holds object type) (Holds object type) (o.run F) := by
  cases o with
  | copyHandle k => exact copy k
  | release k => exact release k
  | releaseAll => exact releaseAll
  | handleCount => exact Keeps.gets
  | place bytes =>
    exact Keeps.gets.bind fun _ => (Keeps.modify fun _ => C.memory _).bind fun _ => Keeps.pure
  | readBuffer address =>
    refine Keeps.gets.bind fun buffer => ?_
    cases buffer with
    | none => exact Keeps.halt C.halts
    | some bytes => exact Keeps.pure
  | free address => exact Keeps.modify fun _ => C.memory _
  | report d => exact C.toDetached.sendReport d
  | _ => cases plain

theorem sessions : SessionContract F (fun _ : Unit => Holds object type) (Holds object type) :=
  .ofUseBlind (fun _ => C.toUseBlind) fun _ =>
    (Keeps.modify fun _ h => ⟨h.objects, h.types⟩).bind fun _ =>
      clearMembers.discard.bind fun _ => releaseAll.discard

theorem op (o : Op P α) : Keeps (Holds object type) (Holds object type) (o.run F) := by
  have interface : InterfaceContract F (Holds object type) (Holds object type) :=
    .ofBlind C.toUseBlind (fun _ _ h => ⟨h.objects, h.types⟩) (fun _ h => ⟨h.objects, h.types⟩)
      C.sink C.about
  by_cases plain : o.isPlain = true
  · exact C.plain o plain
  by_cases clears : o.isClearing = true
  · cases o with
    | shutdown => exact C.sessions.shutdown_keeps ()
    | clearMembers => exact clearMembers
    | _ => cases clears
  · exact interface.op_keeps o (Bool.eq_false_iff.mpr plain) (Bool.eq_false_iff.mpr clears)

theorem act (a : Act P α) : Keeps (Holds object type) (Holds object type) (a.run F) := by
  induction a with
  | pure a => exact Keeps.pure
  | bind x f ihx ihf => exact ihx.bind ihf
  | panic m => exact Keeps.panic
  | attempt x ih => exact ih.attempt
  | note n => exact Keeps.record fun s h => ⟨h.objects, h.types⟩
  | world f => exact fun s h => ⟨h.objects, h.types⟩
  | op o => exact C.op o
  | extra o => exact C.extra o

end HeldContract
end HostBridge
