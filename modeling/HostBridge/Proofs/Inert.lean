import HostBridge.Proofs.Triple
import Mathlib.Data.List.Forall2

/-!
Invariants that look aside. Handles, words and texts are handled by the bridge on its own, and an
invariant that says nothing of them is kept by all of it.
-/
namespace HostBridge

open Exec

variable {P : Platform}

/-- What the bridge does to its table of handles, one change at a time. -/
inductive HandleTable.Step {β : Type} (t : HandleTable β) : HandleTable β → Prop where
  | store (o : Option β) : Step t (t.store o).2
  | get (h : Handle) : Step t (t.get h).2.2
  | release (h : Handle) : Step t (t.release h).2
  | releaseAll : Step t t.releaseAll.2

/-- An invariant that the memory and the reports have no part in. -/
structure Detached (I H : State P → Prop) : Prop where
  memory : ∀ {s} (m : Memory), I s → I { s with memory := m }
  report : ∀ {s} (d : Diagnostic), I s → I { s with record := .diagnostic d :: s.record }
  halts : ∀ s, I s → H s

namespace Detached

variable {I H : State P → Prop} (detached : Detached I H)
include detached

theorem sendReport (d : Diagnostic) : Keeps I H (Exec.report d) :=
  Keeps.modify fun _ => detached.report d

theorem readText (address : UInt64) : Keeps I H (Call.readText address) := by
  unfold Call.readText
  split
  · exact Keeps.pure
  · refine Keeps.gets.bind fun buffer => ?_
    cases buffer with
    | none => exact Keeps.halt detached.halts
    | some bytes => exact Keeps.pure

theorem placeText (text : String) : Keeps I H (Call.placeText (P := P) text) :=
  Keeps.gets.bind fun _ => (Keeps.modify fun _ => detached.memory _).bind fun _ => Keeps.pure

end Detached

/-- A change of what the two sides keep for themselves that is the sharing or dropping of a
reference. -/
inductive Host.Upkeep (H : Host P (Exec P)) :
    (P.Ledger → P.World → P.Ledger × P.World) → Prop where
  | share (o : P.Object) : Upkeep H (H.shareObject o)
  | drop (o : P.Object) : Upkeep H (H.dropObject o)
  | shareType (c : P.Class) : Upkeep H (H.shareClass c)
  | dropType (c : P.Class) : Upkeep H (H.dropClass c)

/-- An invariant that withstands what happens to the handle table and the sharing and dropping of
references, and that the memory and the reports have no part in. -/
structure Withstands (F : Foreign P (Exec P)) (I H : State P → Prop) : Prop
    extends Detached I H where
  handles : ∀ {s} {t : HandleTable P.Object}, s.bridge.handles.Step t → I s →
    I { s with bridge := { s.bridge with handles := t } }
  references : ∀ {s f}, F.host.Upkeep f → I s →
    I { s with ledger := (f s.ledger s.world).1, world := (f s.ledger s.world).2 }

/-- An invariant that withstands what happens to the handle table, and that the memory, what the two
sides keep for themselves and the reports have no part in. -/
structure Inert (I H : State P → Prop) : Prop extends Detached I H where
  handles : ∀ {s} {t : HandleTable P.Object}, s.bridge.handles.Step t → I s →
    I { s with bridge := { s.bridge with handles := t } }
  sides : ∀ {s} (l : P.Ledger) (w : P.World), I s → I { s with ledger := l, world := w }

namespace Inert

variable {I H : State P → Prop} (inert : Inert I H)
include inert

theorem upkeep {E : State P → Prop} (f : P.Ledger → P.World → P.Ledger × P.World) :
    Triple I (Exec.upkeep f) (fun _ => I) E H :=
  Triple.modify fun _ => inert.sides _ _

theorem withstands (F : Foreign P (Exec P)) : Withstands F I H where
  toDetached := inert.toDetached
  handles := inert.handles
  references _ := inert.sides _ _

end Inert

namespace Withstands

variable {F : Foreign P (Exec P)} {I H : State P → Prop} (W : Withstands F I H)
include W

theorem upkeep {E : State P → Prop} {f : P.Ledger → P.World → P.Ledger × P.World}
    (upkeep : F.host.Upkeep f) : Triple I (Exec.upkeep f) (fun _ => I) E H :=
  Triple.modify fun _ => W.references upkeep

/-- The table that was read is changed by a step. -/
theorem setHandles {E : State P → Prop} {t t' : HandleTable P.Object} (step : t.Step t') :
    Triple (fun s => t = s.bridge.handles ∧ I s)
      (Exec.update fun b : Bridge P => { b with handles := t' }) (fun _ => I) E H := by
  refine Triple.update fun s h => ?_
  obtain ⟨rfl, h⟩ := h
  exact W.handles step h

theorem dropValue (v : HostValue P.Object) : Keeps I H (F.host.dropValue v) := by
  unfold Host.dropValue
  split
  · exact W.upkeep (.drop _)
  · exact Keeps.pure

theorem store (o : Option P.Object) : Keeps I H (Objects.store F o) := by
  unfold Objects.store
  refine Triple.bind Triple.asks fun table => ?_
  refine Triple.bind (W.setHandles (.store o)) fun _ => ?_
  cases table.replaced o with
  | none => exact Keeps.pure
  | some old => exact (W.upkeep (.drop old)).bind fun _ => Keeps.pure

theorem lookup (h : Handle) : Keeps I H (Objects.lookup F h) := by
  unfold Objects.lookup
  refine Triple.bind Triple.asks fun table => ?_
  have step := HandleTable.Step.get (t := table) h
  rcases got : table.get h with ⟨found, new, table'⟩
  rw [got] at step
  refine Triple.bind (W.setHandles step) fun _ => ?_
  cases new <;> cases found
  · exact Keeps.pure
  · exact (W.upkeep (.share _)).bind fun _ => Keeps.pure
  · exact (W.sendReport _).bind fun _ => Keeps.pure
  · exact (W.sendReport _).bind fun _ => (W.upkeep (.share _)).bind fun _ => Keeps.pure

theorem release (h : Handle) : Keeps I H (Objects.release F h) := by
  unfold Objects.release
  refine Triple.bind Triple.asks fun table => ?_
  have step := HandleTable.Step.release (t := table) h
  rcases got : table.release h with ⟨found, table'⟩
  rw [got] at step
  refine Triple.bind (W.setHandles step) fun _ => ?_
  cases found with
  | none => exact Keeps.pure
  | some o => exact (W.upkeep (.drop o)).bind fun _ => Keeps.pure

/-- The table is emptied without a panic. -/
theorem releaseAll {E : State P → Prop} : Triple I (Objects.releaseAll F) (fun _ => I) E H :=
  Triple.bind Triple.asks fun _ => Triple.bind (W.setHandles .releaseAll) fun _ =>
    Triple.bind (Triple.forM (fun o => W.upkeep (.drop o)) _) fun _ => Triple.pure fun _ h => h

/-- The cache is emptied without a panic. -/
theorem clearMembers {E : State P → Prop}
    (cleared : ∀ s, I s →
      I { s with bridge := { s.bridge with members := s.bridge.members.clear } }) :
    Triple I (Members.clear F) (fun _ => I) E H :=
  Triple.bind (Triple.bridge fun _ h => h) fun _ =>
    Triple.bind (Triple.modify cleared) fun _ =>
      Triple.bind (Triple.forM (fun c => W.upkeep (.dropType c)) _) fun _ =>
        Triple.pure fun _ h => h

/-! Words and values -/

/-- A word is read as a value of the variant of its kind. -/
theorem decode (kind : ValueKind) (w : Word) :
    Triple I (Call.decode F kind w) (fun v s => v.hasKind kind ∧ I s) I H := by
  cases kind with
  | string =>
    exact Triple.bind (W.readText _) fun _ => Triple.pure fun _ h => ⟨rfl, h⟩
  | object | array =>
    exact Triple.bind (W.lookup _) fun _ => Triple.pure fun _ h => ⟨rfl, h⟩
  | _ => exact Triple.pure fun _ h => ⟨rfl, h⟩

/-- Each parameter gets one value of the variant of its kind, however many words there are. -/
theorem decodeEach (kinds : List ValueKind) (words : List Word) :
    Triple I (Call.decodeEach F kinds words)
      (fun vs s => List.Forall₂ (fun v k => v.hasKind k) vs kinds ∧ I s) I H := by
  induction kinds generalizing words with
  | nil => exact Triple.pure fun _ h => ⟨.nil, h⟩
  | cons kind kinds ih =>
    cases words with
    | nil =>
      refine Triple.bind (ih []) fun vs => Triple.of_and fun hvs => Triple.pure fun _ h => ?_
      exact ⟨.cons (HostValue.hasKind_zero kind) hvs, h⟩
    | cons w words =>
      refine Triple.bind (W.decode kind w) fun v => Triple.of_and fun hv => ?_
      refine Triple.bind (ih words) fun vs => Triple.of_and fun hvs => Triple.pure fun _ h => ?_
      exact ⟨.cons hv hvs, h⟩

theorem decodeArgs (params : List ValueKind) (words : List Word) :
    Triple I (Call.decodeArgs F params words)
      (fun vs s => List.Forall₂ (fun v k => v.hasKind k) vs params ∧ I s) I H := by
  unfold Call.decodeArgs
  split
  · exact Triple.bind (W.sendReport _) fun _ => W.decodeEach params words
  · exact W.decodeEach params words

theorem encode (requested : ValueKind) (v : HostValue P.Object) :
    Keeps I H (Call.encode F requested v) := by
  unfold Call.encode
  split
  · exact (W.dropValue v).bind fun _ => Keeps.pure
  · cases v with
    | string text =>
      cases text with
      | none => exact Keeps.pure
      | some text => exact (W.placeText text).bind fun _ => Keeps.pure
    | object o => exact (W.store o).bind fun _ => Keeps.pure
    | _ => exact Keeps.pure

end Withstands
end HostBridge
