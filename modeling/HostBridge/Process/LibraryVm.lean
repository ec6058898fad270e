import HostBridge.Process.Library

/-!
The embedding library as the VM of a bridge. It is loaded when the VM is started for the first time
and stays loaded; before that none of its functions is called.
-/
namespace HostBridge.LibraryVm

variable {N : Process} {α : Type} (L : Library N (Exec N.platform))

/-! ### The library of the process -/

def isLoaded : Exec N.platform Bool := Exec.gets fun s => s.ledger.loaded

/-- Sees to it that the library is loaded. -/
def ensureLoaded (path : Path) : Exec N.platform (Except VmError Unit) := do
  if ← isLoaded (N := N) then return .ok ()
  else
    match L.load (← Exec.gets (·.files)) path with
    | .error e => return .error e
    | .ok () => do
      Exec.modify fun s => { s with ledger := { s.ledger with loaded := true } }
      return .ok ()

/-! ### Calls -/

/-- Records a call and makes it. -/
def call (c : LibraryCall N.Isolate) (x : Exec N.platform α) : Exec N.platform α := do
  Exec.record (.signal (Signal.library c))
  x

/-- Makes a call that is left out as long as the library is not loaded. -/
def callIfLoaded (c : LibraryCall N.Isolate) (x : Exec N.platform Unit) :
    Exec N.platform Unit := do
  if ← isLoaded (N := N) then call c x

/-- Goes on if the library is loaded. -/
def whenLoaded (x : Exec N.platform (Except VmError α)) : Exec N.platform (Except VmError α) := do
  if ← isLoaded (N := N) then x else return .error .notLoaded

/-! ### The VM -/

def start (config : Config) : Exec N.platform (Except VmError Unit) := do
  match ← ensureLoaded L config.vmLibrary with
  | .error e => return .error e
  | .ok () =>
    let service := config.startServiceIsolate
    let port := config.servicePort
    if ← call (.start service port) (L.start service port) then return .ok ()
    else return .error .startFailed

/-- The text of a path to be passed on, which must not contain a zero. -/
def passable (path : Path) : Except VmError String :=
  if path.text.toList.contains '\x00' then .error (.imageLoad path "path contains a NUL byte")
  else .ok path.text

def loadImage (image : Image) : Exec N.platform (Except VmError N.Isolate) :=
  whenLoaded (N := N) do
    match passable image.path, passable image.packages with
    | .error e, _ | .ok _, .error e => return .error e
    | .ok script, .ok packages =>
      let i ← call (.loadScript script packages) (L.loadScript script packages)
      if N.isNull i then return .error (.imageLoad image.path "the VM returned no isolate")
      else return .ok i

def enterIsolate (i : N.Isolate) : Exec N.platform (Except VmError Unit) :=
  whenLoaded (N := N) do
    if N.isNull i then return .error (.enterFailed "null isolate")
    else
      call (.enterIsolate i) (L.enterIsolate i)
      return .ok ()

/-- Whether a word occurs somewhere in a text. -/
def occursIn (word : List Char) : List Char → Bool
  | [] => word.isEmpty
  | c :: rest => word.isPrefixOf (c :: rest) || occursIn word rest

/-- What an error of the entry point says when there is no such function. -/
def noSuchFunction : String := "NoSuchMethodError"

/-- The failure that an error of the entry point stands for. -/
def entryPointError (name message : String) : VmError :=
  if occursIn noSuchFunction.toList message.toList then .entryPointMissing name
  else .entryPointFailed name message

def entryPoint (name : String) : Exec N.platform (Except VmError Unit) :=
  whenLoaded (N := N) do
    if name.toList.contains '\x00' then return .error (.entryPointMissing name)
    else
      match (← call .rootLibrary L.rootLibrary).errorText? with
      | some message => return .error (.entryPointFailed name ("no root library: " ++ message))
      | none =>
        match (← call (.invoke name) (L.invoke name)).errorText? with
        | some message => return .error (entryPointError name message)
        | none => return .ok ()

def drainQueue : Exec N.platform (Except VmError Unit) :=
  whenLoaded (N := N) do
    match (← call .drain L.drain).errorText? with
    | some message => return .error (.microtask message)
    | none => return .ok ()

/-- Shuts an isolate down, which has to be entered for it. -/
def endIsolate (i : N.Isolate) : Exec N.platform Unit := do
  if ← isLoaded (N := N) then
    call (.enterIsolate i) (L.enterIsolate i)
    call .shutdownIsolate L.shutdownIsolate

/-- The VM of a bridge in a process. -/
def vm : Vm N.platform (Exec N.platform) where
  start := start L
  loadImage := loadImage L
  enterIsolate := enterIsolate L
  exitIsolate := callIfLoaded .exitIsolate L.exitIsolate
  enterScope := callIfLoaded .enterScope L.enterScope
  exitScope := callIfLoaded .exitScope L.exitScope
  entryPoint := entryPoint L
  drain := drainQueue L
  shutdownIsolate := endIsolate L
  stop := callIfLoaded .stop L.stop

end HostBridge.LibraryVm
