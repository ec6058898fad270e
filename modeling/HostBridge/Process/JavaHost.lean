import HostBridge.Process.JavaThread

/-!
The Java VM as the host of a bridge. Classes and objects are pinned; a pending exception is told,
cleared and reported as a failure of the host.
-/
namespace HostBridge.JavaHost

open JavaThread

variable {N : Process} {α : Type} (J : JavaVm N (Exec N.platform))

/-! ### Names -/

/-- The name of a class with slashes between its parts. -/
def internalName (name : String) : String :=
  String.ofList (name.toList.map fun c => if c = '.' then '/' else c)

/-- A failure to look a member up: what was thrown or came back null says that there is none. -/
def lookupFailure (key : MemberKey) : HostError → HostError
  | .exception _ | .interface _ =>
    .memberNotFound (internalName key.className) key.name key.signature key.kind
  | e => e

/-- The name under which a member is kept in its table. -/
def tableName (key : MemberKey) : String :=
  if key.kind = .constructor then Call.constructorName else key.name

/-! ### Values -/

/-- The value of an argument in terms of the Java VM, and the string that was made for it. -/
def lower : HostValue (Pin N.Object) →
    Exec N.platform (Except JavaError (HostValue N.Object × Option (Local N.Object)))
  | .void | .string none => return .ok (.object none, none)
  | .boolean b => return .ok (.boolean b, none)
  | .byte n => return .ok (.byte n, none)
  | .char n => return .ok (.char n, none)
  | .short n => return .ok (.short n, none)
  | .int n => return .ok (.int n, none)
  | .long n => return .ok (.long n, none)
  | .float b => return .ok (.float b, none)
  | .double b => return .ok (.double b, none)
  | .object p => return .ok (.object (p.bind (·.target)), none)
  | .string (some text) => do
    match ← makeString J text with
    | .error e => return .error e
    | .ok o => return .ok (.object (some o), some (← addLocal o))

/-- The values of arguments, and the strings that were made for them, which the caller has to drop.
If one cannot be made, the ones before it stay. -/
def lowerAll : List (HostValue (Pin N.Object)) →
    Exec N.platform (Except JavaError (List (HostValue N.Object) × List (Local N.Object)))
  | [] => return .ok ([], [])
  | v :: rest => do
    match ← lower J v with
    | .error e => return .error e
    | .ok (lowered, made) =>
      match ← lowerAll rest with
      | .error e => return .error e
      | .ok (values, locals) => return .ok (lowered :: values, made.toList ++ locals)

/-- What the Java VM gave for a kind, as a value of the host: objects are pinned and strings read.
-/
def lift : (kind : ValueKind) → Given N.Object kind →
    Exec N.platform (Except HostError (HostValue (Pin N.Object)))
  | .void, _ => return .ok .void
  | .boolean, b => return .ok (.boolean b)
  | .byte, n => return .ok (.byte n)
  | .char, n => return .ok (.char n)
  | .short, n => return .ok (.short n)
  | .int, n => return .ok (.int n)
  | .long, n => return .ok (.long n)
  | .float, b => return .ok (.float b)
  | .double, b => return .ok (.double b)
  | .object, o | .array, o => return (← pinGiven J o).map .object
  | .string, none => return .ok (.string none)
  | .string, some o => do
    let l ← addLocal o
    let text ← stringText J (some o)
    dropLocal l
    return (text.mapError JavaError.toHost).map fun s => .string (some s)

/-! ### Look-ups -/

def resolveType (name : String) : Exec N.platform (Except HostError (Pin N.Class)) := do
  match ← environment J with
  | .error e => return .error e
  | .ok () =>
    let internal := internalName name
    let found ← nonNull "FindClass result" (J.findClass internal)
    match ← settle "find_class" found with
    | .error (.exception _) => return .error (.typeNotFound internal)
    | .error e => return .error e
    | .ok c => pin J (← addLocal c)

def resolveMember (type : Pin N.Class) (key : MemberKey) :
    Exec N.platform (Except HostError (JavaMember N.MemberId)) := do
  match ← environment J with
  | .error e => return .error e
  | .ok () =>
    let sort := key.kind.javaSort
    let found ← nonNull "member ID"
      (J.findMember type.target sort (tableName key) key.signature)
    match ← settle "member lookup" found with
    | .error e => return .error (lookupFailure key e)
    | .ok id => return .ok ⟨sort, id⟩

/-! ### Operations -/

def construct (type : Pin N.Class) (member : JavaMember N.MemberId)
    (args : List (HostValue (Pin N.Object))) :
    Exec N.platform (Except HostError (Option (Pin N.Object))) := do
  if member.sort ≠ .method then return .error (.memberKindMismatch .constructor)
  else
    match ← environment J with
    | .error e => return .error e
    | .ok () =>
      match ← lowerAll J args with
      | .error e => return .error e.toHost
      | .ok (values, locals) => do
        signal (.construct type.target member.id values)
        let made ← nonNull "NewObjectA result" (J.construct type.target member.id values)
        let made ← settle "constructor" made
        dropLocals locals
        match made with
        | .error e => return .error e
        | .ok o => pinGiven J (some o)

/-- The receiver of a method in terms of the Java VM, if the member is of the sort for it. -/
def methodReceiver (receiver : Receiver (Pin N.Object) (Pin N.Class)) (sort : JavaSort) :
    Option (Receiver (Option N.Object) (Option N.Class)) :=
  match receiver, sort with
  | .instance o, .method => some (.instance o.target)
  | .static c, .staticMethod => some (.static c.target)
  | _, _ => none

def invoke (receiver : Receiver (Pin N.Object) (Pin N.Class)) (member : JavaMember N.MemberId)
    (result : ValueKind) (args : List (HostValue (Pin N.Object))) :
    Exec N.platform (Except HostError (HostValue (Pin N.Object))) := do
  match ← environment J with
  | .error e => return .error e
  | .ok () =>
    match ← lowerAll J args with
    | .error e => return .error e.toHost
    | .ok (values, locals) =>
      match methodReceiver receiver member.sort with
      | none =>
        dropLocals locals
        return .error (.memberKindMismatch .method)
      | some target => do
        signal (.invoke target member.id result values)
        let given ← checked (J.invoke target member.id result values)
        let given ← settle "method call" given
        dropLocals locals
        match given with
        | .error e => return .error e
        | .ok x => lift J result x

/-- The receiver of a field, if the member is of the sort for it. -/
def fieldReceiver (receiver : Receiver (Pin N.Object) (Pin N.Class)) (sort : JavaSort) :
    Option (Receiver (Pin N.Object) (Pin N.Class)) :=
  match receiver, sort with
  | .instance _, .field | .static _, .staticField => some receiver
  | _, _ => none

/-- Goes on with the receiver of a field in terms of the Java VM. The null reference has no fields,
while a class is not looked at before the Java VM does. -/
def withFieldReceiver (place : String) (receiver : Receiver (Pin N.Object) (Pin N.Class))
    (body : Receiver N.Object (Option N.Class) → Exec N.platform (Except JavaError α)) :
    Exec N.platform (Except JavaError α) :=
  match receiver with
  | .static c => body (.static c.target)
  | .instance ⟨_, some o⟩ => body (.instance o)
  | .instance ⟨_, none⟩ => return .error (.null place)

/-- Reads a field. There is no such read without a value, which is found out once the receiver is
known. -/
def readField (receiver : Receiver (Pin N.Object) (Pin N.Class)) (member : JavaMember N.MemberId)
    (kind : ValueKind) : Exec N.platform (Except HostError (HostValue (Pin N.Object))) := do
  match ← environment J with
  | .error e => return .error e
  | .ok () =>
    match fieldReceiver receiver member.sort with
    | none => return .error (.memberKindMismatch .field)
    | some target => do
      let given ← withFieldReceiver "get_field_typed obj argument" target fun target =>
        if kind = .void then return .error .readAsVoid
        else checked (J.readField target member.id kind)
      match ← settle "field read" given with
      | .error e => return .error e
      | .ok x => lift J kind x

/-- Writes a field. A write that the Java VM had no part in refusing is reported. -/
def writeField (receiver : Receiver (Pin N.Object) (Pin N.Class)) (member : JavaMember N.MemberId)
    (value : HostValue (Pin N.Object)) : Exec N.platform (Except HostError Unit) := do
  match ← environment J with
  | .error e => return .error e
  | .ok () =>
    match ← lower J value with
    | .error e => return .error e.toHost
    | .ok (lowered, made) =>
      match fieldReceiver receiver member.sort with
      | none =>
        dropLocals made.toList
        return .error (.memberKindMismatch .field)
      | some target => do
        let r ← withFieldReceiver "set_field_typed obj argument" target fun target =>
          return .ok (← call (J.writeField target member.id lowered))
        let r ← settle "field write" r
        dropLocals made.toList
        if let .error (.interface text) := r then Exec.report (.fieldWriteRejected text)
        return r

/-- The book of references with an owner more or less, whatever the reference is to. -/
def onReferences (f : References → References) (ledger : Process.Ledger) (world : N.World) :
    Process.Ledger × N.World :=
  ({ ledger with references := f ledger.references }, world)

/-- The host of a bridge in a process. -/
def host : Host N.platform (Exec N.platform) where
  resolveType := resolveType J
  resolveMember := resolveMember J
  construct := construct J
  invoke := invoke J
  readField := readField J
  writeField := writeField J
  shareObject p ledger world := onReferences (N := N) (·.share p) ledger world
  dropObject p ledger world :=
    onReferences (N := N) (·.drop (J.attaches world) p) ledger world
  shareClass p ledger world := onReferences (N := N) (·.share p) ledger world
  dropClass p ledger world :=
    onReferences (N := N) (·.drop (J.attaches world) p) ledger world

end HostBridge.JavaHost
