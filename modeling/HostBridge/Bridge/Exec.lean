import HostBridge.Bridge.State

/-!
Executions: computations on the state of a bridge that give a value, panic, or never come back. A
panic unwinds to whoever attempts the computation, after the clean-up on its way; a halt does not
unwind, since the thread stays where it is.
-/
namespace HostBridge

/-- Why a thread never comes back. -/
inductive Halt where
  /-- The thread waits for a gate that nobody will free. -/
  | deadlock
  /-- An address that names no buffer was read. -/
  | wildPointer (address : UInt64)
  /-- Foreign code called the bridge, which called foreign code, and so on too often. -/
  | nesting
  deriving DecidableEq, Repr

/-- What a computation came to. -/
inductive Outcome (α : Type) where
  | value (a : α)
  | panic (message : String)
  | halt (why : Halt)
  deriving DecidableEq, Repr

/-- A computation on the state of a bridge. -/
def Exec (P : Platform) (α : Type) : Type := State P → Outcome α × State P

namespace Exec

variable {P : Platform} {α β ε : Type}

protected def pure (a : α) : Exec P α := fun s => (.value a, s)

protected def bind (x : Exec P α) (f : α → Exec P β) : Exec P β := fun s =>
  match x s with
  | (.value a, s) => f a s
  | (.panic m, s) => (.panic m, s)
  | (.halt w, s) => (.halt w, s)

instance : Monad (Exec P) where
  pure := Exec.pure
  bind := Exec.bind

instance : LawfulMonad (Exec P) := LawfulMonad.mk' (Exec P)
  (fun x => by
    funext s
    change (match x s with
      | (.value a, s) => (.value a, s)
      | (.panic m, s) => (.panic m, s)
      | (.halt w, s) => (.halt w, s) : Outcome _ × State P) = x s
    split <;> simp_all)
  (fun _ _ => rfl)
  (fun x f g => by
    funext s
    change Exec.bind (Exec.bind x f) g s = Exec.bind x (fun a => Exec.bind (f a) g) s
    unfold Exec.bind
    rcases x s with ⟨_ | _ | _, _⟩ <;> rfl)

instance : Inhabited (Exec P α) := ⟨fun s => (.halt .nesting, s)⟩

def panic (message : String) : Exec P α := fun s => (.panic message, s)

def halt (why : Halt) : Exec P α := fun s => (.halt why, s)

/-- The panic of a computation as a result. -/
def attempt (x : Exec P α) : Exec P (Except String α) := fun s =>
  match x s with
  | (.value a, s) => (.value (.ok a), s)
  | (.panic m, s) => (.value (.error m), s)
  | (.halt w, s) => (.halt w, s)

/-- A computation with what is to be done after it, whether it gave a value or panicked. -/
def ensure (x : Exec P α) (after : Exec P Unit) : Exec P α := do
  let r ← x.attempt
  after
  match r with
  | .ok a => pure a
  | .error m => panic m

/-- A computation with what is to be done if it panics. -/
def onPanic (x : Exec P α) (after : Exec P Unit) : Exec P α := do
  match ← x.attempt with
  | .ok a => pure a
  | .error m => after; panic m

/-- What the state says. -/
def gets (f : State P → α) : Exec P α := fun s => (.value (f s), s)

def modify (f : State P → State P) : Exec P Unit := fun s => (.value (), f s)

/-- What the bridge says. -/
def bridge (f : Bridge P → α) : Exec P α := gets fun s => f s.bridge

/-- A change of the bridge alone. -/
def update (f : Bridge P → Bridge P) : Exec P Unit :=
  modify fun s => { s with bridge := f s.bridge }

/-- Adds to the record. -/
def record (h : Happening P) : Exec P Unit := modify fun s => { s with record := h :: s.record }

def report (d : Diagnostic) : Exec P Unit := record (.diagnostic d)

/-- A change of what the two sides keep for themselves, in which no foreign code runs. -/
def upkeep (f : P.Ledger → P.World → P.Ledger × P.World) : Exec P Unit := modify fun s =>
  let (ledger, world) := f s.ledger s.world
  { s with ledger := ledger, world := world }

/-- Goes on with the value of a computation that did not fail. -/
def andThen (x : Exec P (Except ε α)) (f : α → Exec P (Except ε β)) : Exec P (Except ε β) := do
  match ← x with
  | .ok a => f a
  | .error e => pure (.error e)

@[simp] theorem run_pure (a : α) (s : State P) : (pure a : Exec P α) s = (.value a, s) := rfl

theorem run_bind (x : Exec P α) (f : α → Exec P β) (s : State P) :
    (x >>= f) s = match x s with
      | (.value a, s) => f a s
      | (.panic m, s) => (.panic m, s)
      | (.halt w, s) => (.halt w, s) := rfl

@[simp] theorem run_panic (m : String) (s : State P) : (panic m : Exec P α) s = (.panic m, s) := rfl

@[simp] theorem run_halt (w : Halt) (s : State P) : (halt w : Exec P α) s = (.halt w, s) := rfl

@[simp] theorem run_gets (f : State P → α) (s : State P) : gets f s = (.value (f s), s) := rfl

@[simp] theorem run_modify (f : State P → State P) (s : State P) :
    modify f s = (.value (), f s) := rfl

end Exec
end HostBridge
