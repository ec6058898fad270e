import HostBridge.Scenario.Behaviour

/-!
Scenarios in memory: the host is the heap itself, whose objects need no pins, and the VM follows a
script.
-/
namespace HostBridge.Scenario.InMemory

/-- References are the objects themselves. -/
def backend : Backend where
  Object := ObjectId
  Class := String
  Member := Nat
  Isolate := Nat
  Ledger := Unit
  Signal := Empty
  Extra _ := Empty

def gauge : Program backend Gauge :=
  Act.gets fun w => .scripted w.vm.inside w.heap.lookups w.heap.exceptions

/-- The steps that need a process around the bridge have no effect. -/
def bench : Bench backend where
  identity o := return some o
  gauge := gauge
  special _ := return .null

/-- The object of a receiver; a static one has none. -/
def objectOf : Receiver ObjectId String → Option ObjectId
  | .instance o => some o
  | .static _ => none

def host : Host (platform backend) (Act (platform backend)) where
  resolveType := HostModel.resolveType
  resolveMember := HostModel.resolveMember
  construct := HostModel.construct bench
  invoke receiver := HostModel.invoke bench (objectOf receiver)
  readField receiver := HostModel.readField (objectOf receiver)
  writeField receiver := HostModel.writeField (objectOf receiver)
  shareObject _ ledger world := (ledger, world)
  dropObject _ ledger world := (ledger, world)
  shareClass _ ledger world := (ledger, world)
  dropClass _ ledger world := (ledger, world)

def vm : Vm (platform backend) (Act (platform backend)) where
  start := VmModel.start
  loadImage := VmModel.loadImage
  enterIsolate := VmModel.enterIsolate
  exitIsolate := VmModel.exitIsolate
  enterScope := VmModel.count .enterScope
  exitScope := VmModel.count .exitScope
  entryPoint := VmModel.entryPoint bench
  drain := VmModel.drain bench
  shutdownIsolate _ := VmModel.count .shutdownIsolate
  stop := VmModel.count .stop

/-- The system of a scenario in memory. -/
def system : System (platform backend) := fun run =>
  let F : Foreign (platform backend) (Exec (platform backend)) :=
    { host := host.map run
      vm := vm.map run
      handler := fun h k args => run (Handler.call bench h k args)
      sink := fun s player text => run (Sink.call bench s player text)
      extra := fun _ => Exec.halt .nesting }
  { F with
    extra := fun x =>
      match x with
      | .inl e => nomatch e
      | .inr r => Request.run F r }

/-- Before the first step: nothing but the files and the classes. -/
def start (files : FileSystem) (classes : List Declaration) : State (platform backend) where
  files := files
  ledger := ()
  world := { heap := ({} : Heap).declareAll classes }

end HostBridge.Scenario.InMemory
