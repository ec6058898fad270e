import HostBridge.Bridge.Members
import HostBridge.Bridge.Objects

/-!
Dynamic calls: operations on the host by name and descriptor, with words for arguments and results.
An operation that fails is reported and gives the zero word, which is the zero of every kind. The
references that an operation takes for itself are dropped at its end, however it ends. Types and
members come from the cache, unless an operation is told to have them looked up anew.
-/
namespace HostBridge

/-- A computation that may fail with the reason for a zero word. -/
abbrev Call (P : Platform) (α : Type) := ExceptT CallError (Exec P) α

namespace Call

variable {P : Platform} {α : Type} (F : Foreign P (Exec P))

def ofHost (x : Exec P (Except HostError α)) : Call P α :=
  ExceptT.mk (return (← x).mapError .host)

def ofDescriptor (r : Except DescriptorError α) : Call P α :=
  ExceptT.mk (pure (r.mapError .descriptor))

theorem ofDescriptor_ok (a : α) : (ofDescriptor (.ok a) : Call P α) = pure a := rfl

theorem mk_ok (a : α) : (ExceptT.mk (pure (.ok a)) : Call P α) = pure a := rfl

/-- A call with what is to be done after it, whether it succeeded, failed or panicked. -/
def ensure (x : Call P α) (after : Exec P Unit) : Call P α :=
  ExceptT.mk (x.run.ensure after)

/-! ### Words and values -/

/-- The text at an address; the null address gives none. -/
def readText (address : UInt64) : Exec P (Option String) := do
  if address = 0 then return none
  else
    match ← Exec.gets (·.memory.buffer? address) with
    | some buffer => return some (cText buffer)
    | none => Exec.halt (.wildPointer address)

/-- The value that a word stands for. A text is copied; a handle that names nothing is null. -/
def decode (kind : ValueKind) (w : Word) : Exec P (HostValue P.Object) := do
  match kind with
  | .boolean => return .boolean w.toBool
  | .byte => return .byte w.toInt8
  | .char => return .char w.toUInt16
  | .short => return .short w.toInt16
  | .int => return .int w.toInt32
  | .long => return .long w.toInt64
  | .float => return .float w.toFloat32
  | .double => return .double w.toFloat64
  | .string => return .string (← readText w.toPointer)
  | .object | .array => return .object (← Objects.lookup F w.toHandle)
  | .void => return .void

/-- The values of the parameters from the words in front; parameters without a word are zero and
words without a parameter are left aside. -/
def decodeEach : List ValueKind → List Word → Exec P (List (HostValue P.Object))
  | [], _ => return []
  | kind :: kinds, [] => return .zero kind :: (← decodeEach kinds [])
  | kind :: kinds, w :: words => do
    let v ← decode F kind w
    return v :: (← decodeEach kinds words)

/-- The arguments of a call; a wrong number of words is reported. -/
def decodeArgs (params : List ValueKind) (words : List Word) :
    Exec P (List (HostValue P.Object)) := do
  if params.length ≠ words.length then
    Exec.report (.argumentCount params.length words.length)
  decodeEach F params words

/-- Copies a text into a buffer that the caller has to free. -/
def placeText (text : String) : Exec P UInt64 := do
  let (address, memory) := (← Exec.gets (·.memory)).placeText text
  Exec.modify fun s => { s with memory := memory }
  return address

/-- The word of a result. A text becomes a buffer of the caller, an object a handle; a result that
was not asked for is dropped. -/
def encode (requested : ValueKind) (v : HostValue P.Object) : Exec P Word := do
  if requested = .void then
    F.host.dropValue v
    return .zero
  else
    match v with
    | .void => return .zero
    | .boolean b => return .ofBool b
    | .byte n => return .ofInt32 n.toInt32
    | .char n => return .ofInt32 n.toUInt32.toInt32
    | .short n => return .ofInt32 n.toInt32
    | .int n => return .ofInt32 n
    | .long n => return .ofInt64 n
    | .float b => return .ofFloat32 b
    | .double b => return .ofFloat64 b
    | .string (some text) => return .ofPointer (← placeText text)
    | .string none => return .zero
    | .object o => return .ofHandle (← Objects.store F o)

/-- The kind to ask the host for: what is declared, but for a string taken as an object, which stays
an object of the host. -/
def hostKind (requested declared : ValueKind) : Except CallError ValueKind :=
  if requested.accepts declared then
    .ok (if requested = .object ∧ declared = .string then .object else declared)
  else .error (.returnMismatch requested declared)

/-! ### Targets -/

/-- What an operation is aimed at. -/
inductive Target where
  | instance (receiver : Handle)
  | static
  deriving DecidableEq, Repr

namespace Target

def methodKind : Target → MemberKind
  | .instance _ => .method
  | .static => .staticMethod

def fieldKind : Target → MemberKind
  | .instance _ => .field
  | .static => .staticField

/-! The operations by the names under which they are reported. -/

def callName : Target → CallName
  | .instance _ => .callMethod
  | .static => .callStaticMethod

def getName : Target → CallName
  | .instance _ => .getField
  | .static => .getStaticField

def setName : Target → CallName
  | .instance _ => .setField
  | .static => .setStaticField

end Target

/-- Goes on with the type of a name and drops it in the end. -/
def withType (name : String) (body : P.Class → Call P α) (R : Resolution := .cached) :
    Call P α := do
  let c ← ofHost (R.type F name)
  ensure (body c) (F.host.dropType c)

/-- Goes on with the receiver of an operation and drops it in the end. -/
def withReceiver (target : Target) (type : P.Class)
    (body : Receiver P.Object P.Class → Call P α) : Call P α := do
  match target with
  | .static => body (.static type)
  | .instance h =>
    match ← Objects.lookup F h with
    | none => throw (.nullReceiver h)
    | some o => ensure (body (.instance o)) (F.host.drop o)

/-- Goes on with the arguments of a call and drops them in the end. -/
def withArgs (params : List ValueKind) (words : List Word)
    (body : List (HostValue P.Object) → Call P α) : Call P α := do
  let values ← decodeArgs F params words
  ensure (body values) (F.host.dropValues values)

/-! ### Operations -/

/-- The name under which constructors are looked up. -/
def constructorName : String := "<init>"

/-- Constructs an object; the descriptor has to say that nothing is returned. -/
def construct (className signature : String) (words : List Word) (R : Resolution := .cached) :
    Call P Handle := do
  let d ← ofDescriptor (Descriptor.parseMethod signature)
  if d.result ≠ .void then throw (.constructorReturn d.result)
  let key : MemberKey := ⟨className, constructorName, signature, .constructor⟩
  withType F className (R := R) fun type => do
    let member ← ofHost (R.member F type key)
    withArgs F d.params words fun args => do
      let o ← ofHost (F.host.callConstruct key type member args)
      Objects.store F o

/-- Calls a method. -/
def invoke (target : Target) (className name signature : String) (requested : ValueKind)
    (words : List Word) (R : Resolution := .cached) : Call P Word := do
  let d ← ofDescriptor (Descriptor.parseMethod signature)
  let kind ← ExceptT.mk (pure (hostKind requested d.result))
  let key : MemberKey := ⟨className, name, signature, target.methodKind⟩
  withType F className (R := R) fun type =>
    withReceiver F target type fun receiver => do
      let member ← ofHost (R.member F type key)
      withArgs F d.params words fun args => do
        let v ← ofHost (F.host.callInvoke key receiver member kind args)
        encode F requested v

/-- Reads a field. -/
def read (target : Target) (className name descriptor : String) (requested : ValueKind)
    (R : Resolution := .cached) : Call P Word := do
  let declared ← ofDescriptor (Descriptor.parseField descriptor)
  let kind ← ExceptT.mk (pure (hostKind requested declared))
  let key : MemberKey := ⟨className, name, descriptor, target.fieldKind⟩
  withType F className (R := R) fun type =>
    withReceiver F target type fun receiver => do
      let member ← ofHost (R.member F type key)
      let v ← ofHost (F.host.callReadField key receiver member kind)
      encode F requested v

/-- Writes a field. The word is read as the descriptor says, before the receiver is looked up. -/
def write (target : Target) (className name descriptor : String) (requested : ValueKind)
    (w : Word) (R : Resolution := .cached) : Call P Unit := do
  let declared ← ofDescriptor (Descriptor.parseField descriptor)
  if requested = .void ∨ !requested.accepts declared then
    throw (.returnMismatch requested declared)
  let key : MemberKey := ⟨className, name, descriptor, target.fieldKind⟩
  withType F className (R := R) fun type => do
    let value ← decode F declared w
    ensure
      (withReceiver F target type fun receiver => do
        let member ← ofHost (R.member F type key)
        ofHost (F.host.callWriteField key receiver member value))
      (F.host.dropValue value)

/-- Resolves a type and one of its members now, so that later operations find them in the cache. -/
def preload (key : MemberKey) (R : Resolution := .cached) : Call P Unit := do
  if key.kind.isField then
    discard <| ofDescriptor (Descriptor.parseField key.signature)
  else
    discard <| ofDescriptor (Descriptor.parseMethod key.signature)
  withType F key.className (R := R) fun type => do
    discard <| ofHost (R.member F type key)

end Call

/-! ### Operations that report -/

namespace Dynamic

open Call

variable {P : Platform} (F : Foreign P (Exec P))

/-- The result of an operation, or the report of its failure and zero. -/
def settle (call : CallName) (className member : String) (x : Call P Word) : Exec P Word := do
  match ← x.run with
  | .ok w => return w
  | .error e =>
    Exec.report (.callFailed call className member e)
    return .zero

/-- The handle of a new object, or the report of the failure and the null handle. -/
def settleNew (className signature : String) (x : Call P Handle) : Exec P Handle := do
  match ← x.run with
  | .ok h => return h
  | .error e =>
    Exec.report (.createFailed className signature e)
    return .null

/-- Nothing, or the report of the failure of a write. -/
def settleWrite (call : CallName) (className member : String) (x : Call P Unit) : Exec P Unit := do
  discard <| settle call className member do
    x
    return .zero

def createObject (className signature : String) (words : List Word) : Exec P Handle :=
  settleNew className signature (construct F className signature words)

def callMethod (target : Target) (className name signature : String) (requested : ValueKind)
    (words : List Word) : Exec P Word :=
  settle target.callName className name (invoke F target className name signature requested words)

def getField (target : Target) (className name descriptor : String) (requested : ValueKind) :
    Exec P Word :=
  settle target.getName className name (read F target className name descriptor requested)

def setField (target : Target) (className name descriptor : String) (requested : ValueKind)
    (w : Word) : Exec P Unit :=
  settleWrite target.setName className name
    (write F target className name descriptor requested w)

end Dynamic
end HostBridge
