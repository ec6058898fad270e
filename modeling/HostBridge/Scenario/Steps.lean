import HostBridge.Export.JavaEvents
import HostBridge.Scenario.Setting
import HostBridge.Scenario.ValueText

/-!
What the steps of a scenario do, as programs. A step gives one answer; a step inside a script puts
its answer on record. What depends on the backend is on the bench.
-/
namespace HostBridge.Scenario

/-- What a backend adds to the meaning of steps. -/
structure Bench (B : Backend) where
  /-- The object behind a reference; a reference to null has none. -/
  identity : B.Object → Program B (Option ObjectId)
  gauge : Program B Gauge
  /-- The steps for which a backend is asked. -/
  special : Step → Program B Answer

variable {B : Backend} (D : Bench B)

open Request

/-! ### Words -/

/-- The word of a source, with the address to be freed when the word is no longer needed. -/
def WordSource.place : WordSource → Program B (Word × Option UInt64)
  | .word w => return (w, none)
  | .buffer bytes => do
    let address ← .op (.place (cBuffer bytes))
    return (.ofPointer address, some address)

def freeAll (addresses : List (Option UInt64)) : Program B Unit :=
  addresses.forM fun
    | some a => .op (.free a)
    | none => return ()

/-- Goes on with the words of some sources, whose buffers live as long. -/
def withWords {α : Type} (sources : List WordSource) (body : List Word → Program B α) :
    Program B α := do
  let placed ← sources.mapM WordSource.place
  Act.ensure (body (placed.map (·.1))) (freeAll (placed.map (·.2)))

/-- Goes on with the word of a source, whose buffer lives as long. -/
def withWord {α : Type} (source : WordSource) (body : Word → Program B α) : Program B α := do
  let (w, address) ← source.place
  Act.ensure (body w) (freeAll [address])

/-- The text at an address, which is freed; none at the null address. -/
def takeText (address : UInt64) : Program B Answer := do
  if address = 0 then return .null
  else do
    let bytes ← .op (.readBuffer address)
    Act.op (.free address)
    return .text (cText bytes)

/-- A result word as the requested kind has it. -/
def tellWord (requested : ValueKind) (w : Word) : Program B Answer :=
  if requested = .string then takeText w.toPointer else return .number w.toInt64.toInt

/-- A result of an exported function. -/
def tellCarrier : (t : CType) → t.Carrier → Program B Answer
  | .void, _ => return .null
  | .int, (n : Int32) => return .number n.toInt
  | .long, (n : Int64) => return .number n.toInt
  | .double, b => return .double b
  | .float, b => return .float b
  | .boolean, b => return .boolean b
  | .object, (h : Handle) => return .number h.raw.toInt
  | .string, a => takeText a

/-- A result of an event as the Java VM has it. -/
def tellJava (k : EventKind) (x : k.JavaOutput) : Answer :=
  tell k.info.default x
where
  tell : (r : Reply) → r.JavaCarrier → Answer
  | .unit, _ => .null
  | .int _, (n : Int32) => .number n.toInt
  | .boolean _, (b : UInt8) => .number b.toNat

/-- Goes on with the addresses of some names, which live as long. -/
def withNames {α : Type} (names : List NameSource) (body : List UInt64 → Program B α) :
    Program B α := do
  let placed ← names.mapM fun
    | some bytes => return some (← .op (.place (cBuffer bytes)))
    | none => return none
  Act.ensure (body (placed.map (·.getD 0))) (freeAll placed)

/-- Goes on with the addresses of the three names of a member. -/
def withMemberNames {α : Type} (className name descriptor : NameSource)
    (body : Export.MemberNames → Program B α) : Program B α :=
  withNames [className, name, descriptor] fun addresses =>
    match addresses with
    | [c, n, d] => body ⟨c, n, d⟩
    | _ => body ⟨0, 0, 0⟩

/-- Goes on with a buffer of arguments, which lives as long. -/
def withArguments {α : Type} (buffer : WordBuffer) (body : Export.Arguments → Program B α) :
    Program B α :=
  withWords buffer.words fun words =>
    body ⟨if buffer.absent then none else some words,
      buffer.count.getD (Int32.ofNat words.length)⟩

def targetOf (receiver : Option Handle) : Call.Target :=
  match receiver with
  | some h => .instance h
  | none => .static

/-! ### Results of handlers -/

/-- A result of a handler from a literal: numbers and booleans stand for one another, and anything
else is zero or false. -/
def Literal.toCarrier (l : Literal) : (r : Reply) → r.Carrier
  | .unit => ()
  | .int _ =>
    match l with
    | .number n => Int32.ofInt n
    | .boolean b => if b then (1 : Int32) else (0 : Int32)
    | _ => (0 : Int32)
  | .boolean _ =>
    match l with
    | .number n => n != 0
    | .boolean b => b
    | _ => false

/-- An argument of an event as a literal. -/
def Literal.ofDatum : Datum → Literal
  | .int n => .number n.toInt
  | .long n => .number n.toInt
  | .float b => .text ("0x" ++ Hex.fixed 8 b.toNat)
  | .double b => .text ("0x" ++ Hex.fixed 16 b.toNat)
  | .boolean b => .boolean b

def argumentLiteral (args : List Datum) (n : Nat) : Literal :=
  (args[n]?.map Literal.ofDatum).getD .null

def Choice.toLiteral (args : List Datum) : Choice → Literal
  | .literal l => l
  | .argument n => argumentLiteral args n
  | .equal n l => .boolean (argumentLiteral args n == l)

/-! ### Plain steps -/

def registerAll (body : List Action) : Program B Unit :=
  EventKind.all.forM fun k => .op (.setHandler k (some (.script body)))

/-- Installs the function of a kind with a script to follow, or removes the handler. -/
def registerPointer (k : EventKind) (body : Option (List Action)) : Program B Unit := do
  if let some b := body then
    Act.modify fun w => { w with pointers := fun j => if j = k then b else w.pointers j }
  Export.register k (body.map fun _ => .pointer)

def status : Program B Answer := do
  let phase ← .op .phase
  let serviceUrl ← .op .serviceUrl
  let handles ← .op .handleCount
  let (members, resolutions) ← .op .memberCounts
  let registered := (← .op .handlers).length
  let chat ← .op .hasSink
  let depth ← .op .depth
  let held ← .op .isInside
  return .status
    { phase, serviceUrl, handles, members, resolutions, registered, chat, depth, held,
      gauge := ← D.gauge }

/-- Looks a handle up for the length of a program. -/
def withObject {α : Type} (h : Handle) (body : Option ObjectId → Program B α) :
    Program B (Option α) := do
  match ← ask (.lookup h) with
  | none => return none
  | some o => do
    let id ← D.identity o
    return some (← Act.ensure (body id) (ask (.dropObject o)))

def peek (h : Handle) (fields : List String) : Program B Answer := do
  let answer ← withObject D h fun
    | none => return .null
    | some o => heapGets fun heap =>
      .object (heap.className o) (fields.map fun f => (f, heap.tell (heap.get o f)))
  return answer.getD .null

def same (h other : Handle) : Program B Answer := do
  let first ← ask (.lookup h)
  let second ← ask (.lookup other)
  let answer ← match first, second with
    | some a, some b => pure (.boolean ((← D.identity a) == (← D.identity b)))
    | _, _ => pure .null
  [first, second].forM fun
    | some o => ask (.dropObject o)
    | none => return ()
  return answer

/-- A value that the host gave, with its objects told as such. -/
def tellHostValue (v : HostValue B.Object) : Program B Answer := do
  if let some o := v.reference? then ask (.dropObject o)
  return .value (v.map fun _ => "object")

/-- Uses a member that was resolved on a class. -/
def useMember (c : B.Class) (m : B.Member) (o : B.Object) (usage : Usage) (requested : ValueKind)
    (args : List (HostValue B.Object)) : Program B Answer := do
  let written := args.headD .void
  match usage with
  | .construct => do
    match ← ask (.construct c m args) with
    | .error e => return .hostError e
    | .ok made => do
      if let some x := made then ask (.dropObject x)
      return .boolean made.isSome
  | .invoke => valueOr (ask (.invoke (.instance o) m requested args))
  | .invokeStatic => valueOr (ask (.invoke (.static c) m requested args))
  | .get => valueOr (ask (.readField (.instance o) m requested))
  | .getStatic => valueOr (ask (.readField (.static c) m requested))
  | .set => nullOr (ask (.writeField (.instance o) m written))
  | .setStatic => nullOr (ask (.writeField (.static c) m written))
where
  valueOr (x : Program B (Except HostError (HostValue B.Object))) : Program B Answer := do
    match ← x with
    | .error e => return .hostError e
    | .ok v => tellHostValue v
  nullOr (x : Program B (Except HostError Unit)) : Program B Answer := do
    return .ofExcept .hostError (fun _ => .null) (← x)

/-- Uses the host directly: looks up a class, a member of it and a receiver, in this order. -/
def useHost (key : MemberKey) (usage : Usage) (on : Handle) (requested : ValueKind)
    (args : List (HostValue Empty)) : Program B Answer := do
  match ← ask (.resolveType key.className) with
  | .error e => return .hostError e
  | .ok c =>
    let body : Program B Answer := do
      match ← ask (.resolveMember c key) with
      | .error e => return .hostError e
      | .ok m =>
        match ← ask (.lookup on) with
        | none => return .noReceiver
        | some o =>
          Act.ensure (useMember c m o usage requested (args.map (·.map Empty.elim)))
            (ask (.dropObject o))
    Act.ensure body (ask (.dropClass c))

/-- Starts an image with this environment, which is put back afterwards. -/
def launchIn (path : Path) (environment : Config.Environment) : Program B Answer := do
  let before ← .op (.setEnvironment environment)
  let r ← Act.ensure (Act.op (.launch path)) (discard <| Act.op (.setEnvironment before))
  return .ofExcept .bridgeError (fun _ => .done) r

def vmAnswer (r : Request B (Except VmError Unit)) : Program B Answer :=
  return .ofExcept .vmError (fun _ => .done) (← ask r)

def LibraryChange.apply (s : LibraryState) : LibraryChange → LibraryState
  | .starts b => { s with starts := b }
  | .loads b => { s with loads := b }
  | .rootLibrary a => { s with rootLibrary := a }
  | .entry a => { s with entry := a }
  | .drain a => { s with drain := a }
  | .onEntry steps => { s with onEntry := steps }
  | .onDrain steps => { s with onDrain := steps }

/-! ### All steps -/

mutual

/-- What a step does and what it gives. -/
def Step.run : Step → Program B Answer
  | .set k body => null <| .op (.setHandler k (some (.script body)))
  | .setPointer k body => null <| registerPointer k body
  | .unset k => null <| .op (.setHandler k none)
  | .setAll body => null <| registerAll body
  | .clear => null <| .op .clearHandlers
  | .isRegistered k => return .boolean ((← .op .handlers).contains k)
  | .registered => return .registered (← .op .handlers)
  | .callHandler k args =>
    return .ofReply (k.reply (← .op (.callHandler k (.ofList k.params args))))
  | .launch path environment => launchIn path environment
  | .launchWith path config =>
    return .ofExcept .bridgeError (fun _ => .done) (← .op (.launchWith path config))
  | .shutdown => return .ofExcept .bridgeError .boolean (← .op .shutdown)
  | .shutdownWith teardown => do
    match ← ask .beginShutdown with
    | .ok true => do
      Line.runAll teardown
      ask .finishShutdown
      return .boolean true
    | other => return .ofExcept .bridgeError .boolean other
  | .tick => null <| .op .tick
  | .inside steps => do
    match ← ask .enterIsolate with
    | none => return .refused
    | some e => do
      let depth ← .op .depth
      Act.ensure (Line.runAll steps) (ask (.leaveIsolate e))
      return .entered (e == .outer) depth
  | .inScope steps => null do
    ask .enterScope
    Line.runAll steps
    ask .exitScope
  | .exclusive => return .boolean (← ask .tryExclusive)
  | .thread steps => do
    let me ← ask .fork
    let r ← (Line.runAll steps).attempt
    ask (.join me)
    return .boolean r.toBool
  | .status => status D
  | .dispatch k args =>
    return .ofReply (k.reply (← .op (.dispatch k (.ofList k.params args))))
  | .setSink sink steps => null <| .op (.setSink (sink.map fun name => ⟨name, steps⟩))
  | .hasSink => return .boolean (← .op .hasSink)
  | .chat player text => return .boolean (← .op (.sendChat player text))
  | .create className signature words =>
    withWords words fun ws =>
      return .number (← .op (.createObject className signature ws)).raw.toInt
  | .call receiver className name signature requested words =>
    withWords words fun ws => do
      tellWord requested
        (← .op (.callMethod (targetOf receiver) className name signature requested ws))
  | .get receiver className name descriptor requested => do
    tellWord requested
      (← .op (.getField (targetOf receiver) className name descriptor requested))
  | .put receiver className name descriptor requested word =>
    withWord word fun w => null <|
      .op (.setField (targetOf receiver) className name descriptor requested w)
  | .preload key => return .ofExcept .callError (fun _ => .done) (← .op (.preload key))
  | .useHost key usage on requested args => useHost key usage on requested args
  | .peek h fields => peek D h fields
  | .same h other => same D h other
  | .store h => return .number (← .op (.copyHandle h)).raw.toInt
  | .release h => return .boolean (← .op (.release h))
  | .releaseAll => return .number (← .op .releaseAll)
  | .clearMembers => return .number (← .op .clearMembers)
  | .declare members => null <| modifyHeap (·.declareAll members)
  | .failVm failure => null <| modifyVm ({ · with failure })
  | .onEntry steps error => do
    if ← Act.gets (·.vm.inEntry) then return .refused
    else null <| modifyVm ({ · with onEntry := some (steps, error) })
  | .onDrain steps => null <| modifyVm ({ · with onDrain := steps })
  | .vmCalls => do
    let calls ← Act.gets (·.vm.calls.reverse)
    modifyVm ({ · with calls := [] })
    return .vmCalls calls (calls.count .drain)
  | .failPins on => null <| modifyHeap ({ · with failPins := on })
  | .failJava failure => null <| Act.modify ({ · with javaFailure := failure })
  | .setLibrary changes => null <| modifyLibrary (changes.foldl LibraryChange.apply ·)
  | .vmStart config => vmAnswer (.vmStart config)
  | .vmLoad path config => vmAnswer (.vmLoad path config)
  | .vmEntryPoint name => vmAnswer (.vmEntryPoint name)
  | .vmDrain => vmAnswer .vmDrain
  | .vmExitIsolate => null <| ask .vmExitIsolate
  | .vmEnterScope => null <| ask .vmEnterScope
  | .vmExitScope => null <| ask .vmExitScope
  | .vmStop => null <| ask .vmStop
  | .cCreate className signature buffer =>
    withNames [className, signature] fun names =>
      withArguments buffer fun args => do
        let h ← Export.createObject (names.headD 0) (names.getLastD 0) args
        return .number h.raw.toInt
  | .cCall receiver className name signature type buffer =>
    withMemberNames className name signature fun names =>
      withArguments buffer fun args => do
        tellCarrier type (← Export.callMethod type (targetOf receiver) names args)
  | .cGet receiver className name descriptor type =>
    withMemberNames className name descriptor fun names => do
      tellCarrier type (← Export.getField type (targetOf receiver) names)
  | .cPut receiver className name descriptor type word =>
    withMemberNames className name descriptor fun names =>
      withWord word fun w => null <|
        Export.setField type (targetOf receiver) names (type.ofWord w)
  | .cRelease h => null <| Export.releaseObject h
  | .cFreeNull => null <| Export.freeString 0
  | .cHandleCount => return .number (← Export.handleCount).toInt
  | .cChat player message =>
    withNames [message] fun names => null <| Export.sendChat player (names.headD 0)
  | .cInit path => withNames [path] fun names => return .boolean (← Export.init (names.headD 0))
  | .cShutdown => null Export.shutdown
  | .cTick => null Export.tick
  | .cIsInitialized => return .boolean (← Export.isInitialized)
  | .cServiceUrl => do takeText (← Export.serviceUrl)
  | .cVersion => return .version Export.interfaceVersion Export.interfaceName
  | .cRegister k body => null <| registerPointer k body
  | .cDispatch k args =>
    return .ofReply (k.reply (← Export.dispatch k (.ofList k.params args)))
  | .jDispatch k args =>
    return tellJava k (← Export.javaDispatch k (.ofWords k.params args))
  | step => D.special step
where
  null (x : Program B Unit) : Program B Answer := do
    x
    return .null

/-- The steps of a script, each of which is put on record when it is over. -/
def Line.runAll : List Line → Program B Unit
  | [] => return ()
  | .mk label step :: rest => do
    let answer ← Step.run step
    Act.note (.did label answer)
    Line.runAll rest

end

end HostBridge.Scenario
