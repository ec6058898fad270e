import HostBridge.Bridge.Program
import HostBridge.Export.CType

/-!
Exported dynamic calls. Names arrive as addresses of text and arguments as a buffer with a count; a
name that is null or no UTF-8 is reported and answered by the zero of the result type. No failure
reaches the caller in another way.
-/
namespace HostBridge.Export

variable {P : Platform}

/-- The bytes of the text at an address; the null address names none. -/
def bytesAt (address : UInt64) : Act P (Option (List UInt8)) := do
  if address = 0 then return none
  else return some (cBytes (← .op (.readBuffer address)))

/-- A text at an address, in which what is not UTF-8 is replaced. -/
def textAt (address : UInt64) : Act P (Option String) :=
  return (← bytesAt address).map Utf8.decodeLossy

/-- A name at an address, which has to be UTF-8. -/
def nameAt (address : UInt64) : Act P (Option String) :=
  return (← bytesAt address).bind Utf8.decode?

/-- The names at some addresses, if each of them is one. -/
def namesAt : List UInt64 → Act P (Option (List String))
  | [] => return some []
  | a :: rest => do
    match ← nameAt a with
    | none => return none
    | some s => return (← namesAt rest).map (s :: ·)

/-- The buffer of arguments of a call: its words, unless it is null, and the count that comes with
it. -/
structure Arguments where
  buffer : Option (List Word)
  count : Int32
  deriving DecidableEq, Repr, Inhabited

/-- The words that count. -/
def Arguments.words (a : Arguments) : List Word :=
  match a.buffer with
  | none => []
  | some ws => ws.take a.count.toInt.toNat

/-- The addresses of the names of a class, a member of it and the descriptor. -/
structure MemberNames where
  className : UInt64
  name : UInt64
  descriptor : UInt64
  deriving DecidableEq, Repr, Inhabited

/-- Goes on with the three names; without them the zero word is the answer. -/
def withNames (call : CallName) (names : MemberNames)
    (body : (className name descriptor : String) → Act P Word) : Act P Word := do
  match ← namesAt [names.className, names.name, names.descriptor] with
  | some [className, name, descriptor] => body className name descriptor
  | _ =>
    .op (.report (.nameRejected call .badName))
    return .zero

def createObject (className signature : UInt64) (args : Arguments) : Act P Handle := do
  match ← namesAt [className, signature] with
  | some [className, signature] => .op (.createObject className signature args.words)
  | _ =>
    .op (.report (.nameRejected .createObject .badName))
    return .null

def callMethod (t : CType) (target : Call.Target) (names : MemberNames) (args : Arguments) :
    Act P t.Carrier := do
  let call := match target with
    | .instance _ => .callMethod
    | .static => .callStaticMethod
  return t.ofWord <| ← withNames call names fun className name signature =>
    .op (.callMethod target className name signature t.kind args.words)

def getField (t : CType) (target : Call.Target) (names : MemberNames) : Act P t.Carrier := do
  let call := match target with
    | .instance _ => .getField
    | .static => .getStaticField
  return t.ofWord <| ← withNames call names fun className name descriptor =>
    .op (.getField target className name descriptor t.kind)

def setField (t : CType) (target : Call.Target) (names : MemberNames) (value : t.Carrier) :
    Act P Unit := do
  let call := match target with
    | .instance _ => .setField
    | .static => .setStaticField
  discard <| withNames call names fun className name descriptor => do
    Act.op (.setField target className name descriptor t.kind (t.toWord value))
    return .zero

def releaseObject (h : Handle) : Act P Unit := do
  discard <| Act.op (.release h)

/-- Frees a text that an exported function gave back. -/
def freeString (address : UInt64) : Act P Unit := do
  if address ≠ 0 then Act.op (.free address)

def handleCount : Act P Int64 :=
  return Int64.ofNat (← .op .handleCount)

/-- Sends a chat message. -/
def sendChat (player : Int64) (message : UInt64) : Act P Unit := do
  match ← textAt message with
  | some text => discard <| Act.op (.sendChat player text)
  | none => Act.op (.report (.chatWithoutMessage player))

end HostBridge.Export
