import HostBridge.Proofs.SessionBlind

/-!
Statements that last. Whatever foreign code does, the record only grows and the handle table changes
by storing, looking up and releasing. A statement about these two that withstands each such change
is kept by every program.
-/
namespace HostBridge

open Exec

variable {P : Platform} {α : Type}

/-- A statement about the handle table and the record that withstands every change of them. -/
structure Lasting (J : HandleTable P.Object → List (Happening P) → Prop) : Prop where
  handles : ∀ {t t' r}, t.Step t' → J t r → J t' r
  record : ∀ {t r} (h : Happening P), J t r → J t (h :: r)

/-- States of which a statement about the handle table and the record holds. -/
def Of (J : HandleTable P.Object → List (Happening P) → Prop) (s : State P) : Prop :=
  J s.bridge.handles s.record

namespace Lasting

variable {J : HandleTable P.Object → List (Happening P) → Prop} (lasting : Lasting J)
include lasting

theorem inert : Inert (Of J) (Of J) where
  handles := lasting.handles
  memory _ h := h
  sides _ _ h := h
  report _ := lasting.record _
  halts _ h := h

variable {F : Foreign P (Act P)} {limit : Nat}
  (run : ∀ {β : Type} (b : Act P β),
    Keeps (Of J) (Of J) ((System.ofPrograms F).exec limit b))
include run

theorem unaware : Unaware ((System.ofPrograms F).foreign limit) (Of J) (Of J) :=
  System.unaware_ofPrograms lasting.inert (fun _ h => h) (fun _ => lasting.record _) run

theorem session : SessionBlind ((System.ofPrograms F).foreign limit) (Of J) (Of J) where
  toInert := lasting.inert
  __ := System.startedCalls_ofPrograms lasting.inert.toDetached (fun _ _ => lasting.record _)
    (fun _ => lasting.record _) (fun _ _ _ => lasting.record _) run
  callStart _ := lasting.record _
  session _ _ _ _ h := h
  handlers _ h := h
  cleared h := h

def contract : ProgramContract ((System.ofPrograms F).foreign limit) (fun _ : Unit => Of J)
    (Of J) :=
  .ofPrograms (.ofUnaware fun _ => lasting.unaware run)
    (fun _ => ⟨fun _ _ _ _ h => h, fun e _ => lasting.record e⟩)
    (SessionContract.ofBlind fun _ => lasting.session run).kept
    (fun _ => (lasting.session run).clearMembers_keeps) fun b _ => run b

omit run

/-- Every program keeps what lasts. -/
theorem exec_keeps (F : Foreign P (Act P)) (limit : Nat) (a : Act P α) :
    Keeps (Of J) (Of J) ((System.ofPrograms F).exec limit a) :=
  System.exec_keeps (I := fun _ : Unit => Of J) (fun _ _ h => h)
    (fun _ run => lasting.contract fun b => run b ()) limit a ()

theorem runTurns (F : Foreign P (Act P)) (limit : Nat) (turns : List (ThreadId × Act P Unit))
    {s : State P} (hs : Of J s) : Of J ((System.ofPrograms F).runTurns limit turns s) :=
  System.runTurns_keeps (fun _ h => h) (fun _ _ h => h) (fun a => lasting.exec_keeps F limit a)
    turns hs

end Lasting
end HostBridge
