import HostBridge.Proofs.JavaTidy
import HostBridge.Proofs.ProgramReferences
import HostBridge.Proofs.ShutdownReset

/-!
References to the Java VM are conserved. Between the operations of a bridge the ones that last are
those behind its handles and its cached types, one for each, whatever the operations were and
however they ended; so none is left when a session has ended.
-/
namespace HostBridge

open Exec

variable {P : Platform} {N : Process}

/-! ### Programs that come back -/

namespace System

/-- Whether programs, run one after another, all come back, be it with a value or by a panic. -/
def comesBack (S : System P) (limit : Nat) : List (ThreadId × Act P Unit) → State P → Bool
  | [], _ => true
  | (thread, a) :: rest, s =>
    match S.exec limit a { s with thread := thread } with
    | (.halt _, _) => false
    | (_, t) => S.comesBack limit rest t

/-- What each of the programs keeps holds after them if they all come back. -/
theorem runTurns_keeps_back {S : System P} {limit : Nat} {I H : State P → Prop}
    (onThread : ∀ s thread, I s → I { s with thread := thread })
    (turns : List (ThreadId × Act P Unit)) (kept : ∀ turn ∈ turns, Keeps I H (S.exec limit turn.2))
    {s : State P} (back : S.comesBack limit turns s = true) (hs : I s) :
    I (S.runTurns limit turns s) := by
  induction turns generalizing s with
  | nil => exact hs
  | cons turn rest ih =>
    obtain ⟨thread, a⟩ := turn
    have h := kept (thread, a) List.mem_cons_self { s with thread := thread } (onThread s thread hs)
    have later := @ih fun turn later => kept turn (List.mem_cons_of_mem _ later)
    unfold comesBack at back
    unfold runTurns
    rcases hrun : S.exec limit a { s with thread := thread } with ⟨r | m | w, t⟩ <;>
      rw [hrun] at h back
    · exact later back h
    · exact later back h
    · cases back

end System

/-! ### Nothing is left -/

/-- States whose table and cache are empty. -/
def Emptied (s : State P) : Prop :=
  s.bridge.handles.entries = [] ∧ s.bridge.members.types = []

namespace Emptied

theorem keeps {α : Type} {x : Exec P α} (hx : x.LeavesBridge) :
    Gives Emptied x (fun _ => Emptied (P := P)) :=
  Triple.of_pre fun s empty =>
    ((HasBridge.keeps hx).of_imp fun _ same => congrArg State.bridge same).weaken
      fun _ t (same : t.bridge = s.bridge) => by rwa [Emptied, same]

theorem call {c : VmCall P} {x : Exec P Unit} (hx : x.LeavesBridge) :
    Gives Emptied (do
      Exec.record (.vmCall c)
      x) (fun _ => Emptied) :=
  Triple.bind (Triple.record fun _ h => h) fun _ => keeps hx

end Emptied

namespace Lifecycle

variable {F : Foreign P (Exec P)}

theorem clear_empties : Gives (fun _ => True) (clear F) (fun _ => Emptied) := by
  refine Triple.of_pre fun s _ => ?_
  have cleared : Gives (RunBy s.bridge s.thread) (clear F) _ := clear_gives
  refine (cleared.of_imp fun t same => ?_).weaken fun _ t h => ?_
  · rw [same]
    exact ⟨rfl, rfl⟩
  · rw [Emptied, h.1]
    exact ⟨rfl, rfl⟩

theorem exclusively_empties {x : Exec P Unit} (hx : Gives Emptied x (fun _ => Emptied)) :
    Gives Emptied (Isolate.exclusively x) (fun _ => Emptied) := by
  have guarded (f : Guard → Guard) : Gives Emptied (Isolate.setGuard (P := P) f) fun _ => Emptied :=
    Triple.update fun _ h => h
  unfold Isolate.exclusively
  refine Triple.bind Triple.asked fun me => Triple.bind Triple.asked fun g => ?_
  split
  · exact hx
  · split
    · exact Triple.halt fun _ _ => trivial
    · exact Triple.bind (guarded _) fun _ => Triple.ensure hx (fun _ => guarded _) Triple.any

theorem finishShutdown_empties (alone : F.EndsAlone) :
    Gives Emptied (finishShutdown F) (fun _ => Emptied) := by
  have reset : Gives Emptied (Exec.update fun b : Bridge P => { b with isolate := none })
      (fun _ => Emptied) := Triple.update fun _ h => h
  unfold finishShutdown
  refine Triple.bind (exclusively_empties ?_) fun _ =>
    Triple.bind (Emptied.call alone.stop) fun _ => Triple.update fun _ h => h
  refine Triple.bind Triple.asked fun isolate => Triple.bind reset fun _ => ?_
  cases isolate with
  | none => exact Triple.pure fun _ h => h
  | some i => exact Emptied.call (alone.shutdownIsolate i)

/-- A shutdown that ends a session leaves the table and the cache empty. -/
theorem shutdown_empties (alone : F.EndsAlone) {s u : State P}
    (ended : shutdown F s = (.value (.ok true), u)) : Emptied u := by
  have finished : Gives (fun _ => True) (shutdownWith F (clear F))
      (fun r t => r = .ok true → Emptied t) := by
    unfold shutdownWith
    refine Triple.bind Triple.any fun r => ?_
    split
    · exact Triple.bind clear_empties fun _ =>
        Triple.bind (finishShutdown_empties alone) fun _ => Triple.pure fun _ h _ => h
    · rename_i other
      exact Triple.pure fun _ _ ok => (other ok).elim
  have emptied : Gives (fun _ => True) (shutdown F) (fun r t => r = .ok true → Emptied t) := by
    unfold shutdown
    refine Triple.bind finished fun r => ?_
    split
    · exact Triple.bind (Triple.update fun _ h => h rfl) fun _ => Triple.pure fun _ h _ => h
    · rename_i other
      exact Triple.pure fun _ _ ok => (other ok).elim
  exact (emptied.of_imp fun _ (_ : _ = s) => trivial).of_value ended rfl

end Lifecycle

/-! ### Conservation -/

/-- The references that last are those behind the handles and the cached types, one for each. -/
structure Conserved (s : State N.platform) : Prop where
  kept : s.ledger.references.globals.Perm
    (keptPins (O := N.Object) (C := N.Class) s.bridge.handles s.bridge.members.types)
  once : s.ledger.references.globals.Nodup
  handles : (s.bridge.handles.entries.map Prod.fst).Nodup
  names : (s.bridge.members.types.map Prod.fst).Nodup

/-- With nothing in hand the references that last are those that are kept. -/
theorem Balanced.conserved {s : State N.platform} (h : Balanced [] s) : Conserved s where
  kept := by
    refine (List.perm_ext_iff_of_nodup h.once h.apart).mpr fun id => ?_
    rw [h.globals, ← List.count_pos_iff, ← List.count_pos_iff, h.owners]
    rfl
  once := h.once
  handles := h.handles
  names := h.names

theorem Conserved.none_left {s : State N.platform} (h : Conserved s) (empty : Emptied s) :
    s.ledger.references.globals = [] := by
  have none : keptPins (O := N.Object) (C := N.Class) s.bridge.handles s.bridge.members.types =
      [] :=
    List.append_eq_nil_iff.mpr
      ⟨congrArg (List.map _) empty.1, congrArg (List.map _) empty.2⟩
  exact List.perm_nil.mp (none ▸ h.kept)

namespace Process

/-- References are conserved. Once programs have come back that call the interface in whatever way
but make no second handle of an object, among foreign code of which the same holds, the references
that last are those behind the handles and the cached types, one for each. So none is left after a
shutdown that ended a session, if the VM does not use the bridge meanwhile. -/
theorem references_conserved (S : Surroundings N (Act N.platform))
    (extra : {α : Type} → N.Extra α → Act N.platform α) (ample : S.Ample) (never : S.NeverCopies)
    (others : ∀ {α : Type} (o : N.Extra α), (extra o).NeverCopies) (limit : Nat)
    (turns : List (ThreadId × Act N.platform Unit)) (each : ∀ turn ∈ turns, turn.2.NeverCopies)
    (s : State N.platform) (handles : s.bridge.handles = {}) (members : s.bridge.members = {})
    (references : s.ledger.references = {})
    (back : (system S extra).comesBack limit turns s = true) :
    Conserved ((system S extra).runTurns limit turns s) ∧
    ∀ depth thread u, ((system S extra).foreign depth).EndsAlone →
      Lifecycle.shutdown ((system S extra).foreign depth)
        { (system S extra).runTurns limit turns s with thread := thread } = (.value (.ok true), u) →
      u.ledger.references.globals = [] := by
  have new : Balanced [] s := by
    rw [Balanced, handles, members, references]
    exact .new
  have after : Balanced [] ((system S extra).runTurns limit turns s) :=
    System.runTurns_keeps_back (fun _ _ h => h) turns
      (fun turn mem => exec_balances ample never others limit (each turn mem) []) back new
  refine ⟨after.conserved, fun depth thread u alone ended => ?_⟩
  -- the shutdown is another run with nothing in hand
  have around := ample.balances never fun ha => exec_balances ample never others depth ha
  have kept : (Lifecycle.shutdown ((system S extra).foreign depth)).Balances :=
    around.session.shutdown_keeps
  have left := ((kept []).of_imp fun t same => by
    rw [same]
    exact after).of_value ended
  exact left.conserved.none_left (Lifecycle.shutdown_empties alone ended)

end Process

/-! ### A process with an unruly Java VM -/

namespace Plain

/-- A Java VM whose methods release the first handle of all, and give an object if they are asked
for one. -/
def unrulyVm : JavaVm process (Act process.platform) where
  attaches _ := true
  isTold := pure true
  hasRoom := pure true
  findClass _ := pure ⟨some (), none⟩
  findMember _ _ _ _ := pure ⟨some (), none⟩
  makeString text := pure ⟨some text, none⟩
  stringText o := pure ⟨some o, none⟩
  isInstance _ _ := pure true
  construct _ _ _ := pure ⟨some "made", none⟩
  invoke _ _ result _ := (Act.op (.release ⟨1⟩)).bind fun _ =>
    pure ⟨match result with
      | .object => some "given"
      | other => .zero other, none⟩
  readField _ _ result := pure ⟨.zero result, none⟩
  writeField _ _ _ := pure ⟨(), none⟩

/-- A library that does nothing. -/
def idleLibrary : Library process (Act process.platform) where
  exports _ := none
  search _ _ := none
  programExports _ := false
  start _ _ := pure true
  loadScript _ _ := pure ()
  enterIsolate _ := pure ()
  exitIsolate := pure ()
  shutdownIsolate := pure ()
  enterScope := pure ()
  exitScope := pure ()
  rootLibrary := pure .value
  invoke _ := pure .success
  drain := pure .success
  stop := pure ()

def unruly : Process.Surroundings process (Act process.platform) where
  java := unrulyVm
  library := idleLibrary
  handler _ k _ := pure k.default
  sink _ _ _ := pure ()

theorem unruly_ample : unruly.Ample where
  attaches _ := rfl
  room F s b t ran := by
    cases ran
    rfl

theorem unruly_neverCopies : unruly.NeverCopies where
  java := ⟨trivial, trivial, fun _ => trivial, fun _ _ _ _ => trivial, fun _ => trivial,
    fun _ => trivial, fun _ _ => trivial, fun _ _ _ => trivial,
    fun _ _ _ _ => ⟨rfl, fun _ => trivial⟩, fun _ _ _ => trivial, fun _ _ _ => trivial⟩
  library := ⟨fun _ _ => trivial, fun _ _ => trivial, fun _ => trivial, trivial, trivial, trivial,
    trivial, trivial, fun _ => trivial, trivial, trivial⟩
  handler _ _ _ := trivial
  sink _ _ _ := trivial

/-- The process while a session runs. -/
def inSession : State process.platform where
  bridge := { phase := .running, isolate := some () }
  ledger := { attached := true, loaded := true }
  world := ()

/-- Two objects are made, and a method of the first one is called whose result is not asked for. -/
def gift : List (ThreadId × Act process.platform Unit) :=
  [(0, (Act.op (.createObject "Point" "()V" [])).bind fun _ =>
      (Act.op (.createObject "Point" "()V" [])).bind fun _ => pure ()),
    (1, (Act.op (.callMethod (.instance ⟨1⟩) "Point" "give" "()Ljava/lang/Object;" .void [])).bind
      fun _ => pure ())]

/-- The foreign code of the process, nested no deeper than this. -/
def unrulySystem : System process.platform := Process.system unruly fun o => nomatch o

theorem gift_given :
    let t := unrulySystem.runTurns 3 gift inSession
    unrulySystem.comesBack 3 gift inSession = true ∧ t.ledger.references.nextPin = 4 ∧
      t.ledger.references.globals.length = 2 ∧ t.bridge.handles.entries.map Prod.fst = [⟨2⟩] := by
  decide +kernel

theorem gift_ends : ∃ u, Lifecycle.shutdown (unrulySystem.foreign 1)
    { unrulySystem.runTurns 3 gift inSession with thread := 0 } = (.value (.ok true), u) := by
  have outcome : (Lifecycle.shutdown (unrulySystem.foreign 1)
      { unrulySystem.runTurns 3 gift inSession with thread := 0 }).1 = .value (.ok true) := by
    decide +kernel
  have ends {r : Outcome (Except BridgeError Bool) × State process.platform}
      (ok : r.1 = .value (.ok true)) : ∃ u, r = (.value (.ok true), u) := ⟨r.2, Prod.ext ok rfl⟩
  exact ends outcome

theorem unruly_endsAlone : (unrulySystem.foreign 1).EndsAlone := by
  have quiet {c : LibraryCall process.Isolate} :
      (LibraryVm.callIfLoaded c (pure ())).LeavesBridge := by
    intro s
    unfold LibraryVm.callIfLoaded LibraryVm.isLoaded
    rw [Exec.run_bind, Exec.run_gets]
    dsimp only
    split <;> rfl
  refine ⟨fun i s => ?_, quiet⟩
  change (LibraryVm.endIsolate _ i s).2.bridge = _
  unfold LibraryVm.endIsolate LibraryVm.isLoaded
  rw [Exec.run_bind, Exec.run_gets]
  dsimp only
  split <;> rfl

end Plain

namespace Process

/-- Four references are made: of the class, of two objects, and of one that a method gives which
releases the handle of its own receiver. Two of them last, and none when the session has ended. -/
theorem references_conserved_plain :
    let S := Plain.unrulySystem
    let t := S.runTurns 3 Plain.gift Plain.inSession
    Plain.unruly.Ample ∧ Plain.unruly.NeverCopies ∧
      S.comesBack 3 Plain.gift Plain.inSession = true ∧ t.ledger.references.nextPin = 4 ∧
      t.ledger.references.globals.length = 2 ∧ t.bridge.handles.entries.map Prod.fst = [⟨2⟩] ∧
      Conserved t ∧ (S.foreign 1).EndsAlone ∧
      ∃ u, Lifecycle.shutdown (S.foreign 1) { t with thread := 0 } = (.value (.ok true), u) ∧
        u.ledger.references.globals = [] := by
  have each : ∀ turn ∈ Plain.gift, turn.2.NeverCopies := List.forall_mem_cons.mpr
    ⟨⟨rfl, fun _ => ⟨rfl, fun _ => trivial⟩⟩,
      List.forall_mem_singleton.mpr ⟨rfl, fun _ => trivial⟩⟩
  obtain ⟨back, made, last, handles⟩ := Plain.gift_given
  obtain ⟨conserved, ends⟩ := references_conserved Plain.unruly (fun o => nomatch o)
    Plain.unruly_ample Plain.unruly_neverCopies (fun o => nomatch o) 3 Plain.gift each
    Plain.inSession rfl rfl rfl back
  obtain ⟨u, ended⟩ := Plain.gift_ends
  exact ⟨Plain.unruly_ample, Plain.unruly_neverCopies, back, made, last, handles, conserved,
    Plain.unruly_endsAlone, u, ended, ends 1 0 u Plain.unruly_endsAlone ended⟩

end Process
end HostBridge
