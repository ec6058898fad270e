import HostBridge.Process.JavaVm

/-!
Calls into the Java VM from a thread. An exception that a call throws stays pending until it is
cleared; while one is pending, every call that is checked fails.
-/
namespace HostBridge.JavaThread

variable {N : Process} {α : Type} (J : JavaVm N (Exec N.platform))

/-! ### The ledger -/

def ledger (f : Process.Ledger → α) : Exec N.platform α := Exec.gets fun s => f s.ledger

def updateLedger (f : Process.Ledger → Process.Ledger) : Exec N.platform Unit :=
  Exec.modify fun s => { s with ledger := f s.ledger }

/-- A change of the book of references with a result. -/
def useReferences (f : References → α × References) : Exec N.platform α := do
  let (a, references) := f (← ledger (N := N) (·.references))
  updateLedger fun l => { l with references := references }
  return a

def signal (c : JavaCall N.Object N.Class N.MemberId) : Exec N.platform Unit :=
  Exec.record (.signal (Signal.java c))

def addLocal (target : α) : Exec N.platform (Local α) := useReferences fun r => r.addLocal target

def dropLocal (l : Local α) : Exec N.platform Unit :=
  useReferences fun r => ((), r.dropLocal l)

def dropLocals (ls : List (Local α)) : Exec N.platform Unit := ls.forM dropLocal

/-! ### The Java VM of the process -/

/-- Makes the Java VM known, unless it is. -/
def attach : Exec N.platform Bool := do
  if ← ledger (N := N) (·.attached) then return false
  else do
    updateLedger ({ · with attached := true })
    return true

/-- Finds the Java VM and attaches the thread to it. -/
def environment : Exec N.platform (Except HostError Unit) := do
  if !(← ledger (N := N) (·.attached)) then return .error .unavailable
  else if ← Exec.gets fun s => J.attaches s.world then return .ok ()
  else return .error JavaError.failed.toHost

/-- Asks for the Java VM and makes it known. -/
def capture : Exec N.platform (Except JavaError Unit) := do
  if ← J.isTold then
    discard <| attach (N := N)
    return .ok ()
  else return .error .failed

/-! ### Checked calls -/

def pending : Exec N.platform (Option String) := ledger (N := N) (·.pending)

/-- Makes a call; what it throws becomes pending. -/
def call (x : Exec N.platform (Raised α)) : Exec N.platform α := do
  let r ← x
  if let some text := r.exception then updateLedger ({ · with pending := some text })
  return r.value

/-- Makes a call that fails while an exception is pending. -/
def checked (x : Exec N.platform (Raised α)) : Exec N.platform (Except JavaError α) := do
  let a ← call x
  if (← pending (N := N)).isSome then return .error .thrown else return .ok a

/-- Makes a call that fails, too, if it gives a null reference. -/
def nonNull (place : String) (x : Exec N.platform (Raised (Option α))) :
    Exec N.platform (Except JavaError α) := do
  match ← checked x with
  | .error e => return .error e
  | .ok none => return .error (.null place)
  | .ok (some a) => return .ok a

/-- A result with the exception that may be pending, which is told and cleared. -/
def settle (during : String) (r : Except JavaError α) : Exec N.platform (Except HostError α) := do
  match ← pending (N := N) with
  | some text =>
    signal (.describe text)
    updateLedger ({ · with pending := none })
    return .error (.exception during)
  | none => return r.mapError JavaError.toHost

/-! ### Strings -/

/-- Makes a string. -/
def makeString (text : String) : Exec N.platform (Except JavaError N.Object) := do
  signal (.makeString text)
  nonNull "NewStringUTF result" (J.makeString text)

/-- The text of an object that has to be a string. -/
def stringText (o : Option N.Object) : Exec N.platform (Except JavaError String) := do
  match ← nonNull "FindClass result" (J.findClass Descriptor.stringClass) with
  | .error e => return .error e
  | .ok c =>
    match o with
    | none => return .error (.null "get_object_class")
    | some o =>
      if ← J.isInstance o c then nonNull "GetStringUTFChars result" (J.stringText o)
      else return .error .failed

/-! ### Pins -/

/-- Makes a reference that lasts. Without room for it the Java VM gives the null reference, which is
taken as it is. -/
def newPin (target : α) : Exec N.platform (Except JavaError (Pin α)) := do
  if ← J.isTold then
    let room ← J.hasRoom
    return .ok (← useReferences fun r => r.addPin (if room then some target else none))
  else return .error .failed

/-- Turns a local reference into one that lasts. -/
def pin (l : Local α) : Exec N.platform (Except HostError (Pin α)) := do
  let r ← newPin J l.target
  dropLocal l
  return r.mapError fun e => .pinFailed e.text

/-- Pins what a call gave, unless it is null. -/
def pinGiven (given : Option α) : Exec N.platform (Except HostError (Option (Pin α))) := do
  match given with
  | none => return .ok none
  | some target => return (← pin J (← addLocal target)).map some

end HostBridge.JavaThread
