import HostBridge.FileSystem
import HostBridge.Json

/-!
Configuration of the bridge. Three layers apply in turn: the defaults, the settings file beside the
program image if there is one, and the environment.
-/
namespace HostBridge

/-- The settings of one run. -/
structure Config where
  /-- Path or bare file name of the library that holds the VM. -/
  vmLibrary : Path := ⟨"libdart_dll.so"⟩
  /-- The function called once after the image is loaded. -/
  entryPoint : String := "main"
  startServiceIsolate : Bool := true
  serviceHost : String := "127.0.0.1"
  servicePort : UInt16 := 5858
  /-- Takes the place of the package list found from the image. -/
  packageConfig : Option Path := none
  logFilter : String := "info"
  deriving DecidableEq, Repr, Inhabited

/-- Why the settings could not be read. -/
inductive ConfigError where
  | io (path : Path) (cause : FileError)
  | json (path : Path) (cause : JsonError)
  deriving DecidableEq, Repr

namespace Config

/-- The address of the debugging service; none while the service is off. -/
def serviceUrl (c : Config) : Option String :=
  if c.startServiceIsolate then
    some ("http://" ++ c.serviceHost ++ ":" ++ toString c.servicePort.toNat ++ "/")
  else none

/-! ### The settings file -/

/-- The settings that a file may give, in the order of an array of values. -/
inductive Key where
  | vmLibrary
  | entryPoint
  | startServiceIsolate
  | serviceHost
  | servicePort
  | packageConfig
  | logFilter
  deriving DecidableEq, Repr

namespace Key

def all : List Key :=
  [vmLibrary, entryPoint, startServiceIsolate, serviceHost, servicePort, packageConfig, logFilter]

def name : Key → String
  | vmLibrary => "vm_library"
  | entryPoint => "entry_point"
  | startServiceIsolate => "start_service_isolate"
  | serviceHost => "service_host"
  | servicePort => "service_port"
  | packageConfig => "package_config"
  | logFilter => "log_filter"

def ofName? (s : String) : Option Key := all.find? (·.name == s)

/-- The setting `k` of `c`, replaced by the value in front. -/
def read (k : Key) (c : Config) : Json.Reader Config :=
  match k with
  | vmLibrary => return { c with vmLibrary := ⟨← Json.text "path string"⟩ }
  | entryPoint => return { c with entryPoint := ← Json.text "a string" }
  | startServiceIsolate => return { c with startServiceIsolate := ← Json.boolean "a boolean" }
  | serviceHost => return { c with serviceHost := ← Json.text "a string" }
  | servicePort => return { c with servicePort := ← Json.word16 "u16" }
  | packageConfig =>
    return { c with packageConfig := (← Json.optional (Json.text "path string")).map Path.mk }
  | logFilter => return { c with logFilter := ← Json.text "a string" }

end Key

/-- The message about a key that names no setting. -/
def unknownKey (s : String) : String :=
  let names := Key.all.map fun k => "`" ++ k.name ++ "`"
  "unknown field `" ++ s ++ "`, expected one of " ++ String.intercalate ", " names

/-- The members of an object up to its end. Each setting may be given once, so `limit` need be no
more than their number and one for the end. -/
def members (limit : Nat) (seen : List Key) (c : Config) : Json.Reader Config :=
  match limit with
  | 0 => Json.malformed
  | limit + 1 => do
    match ← Json.nextKey? seen.isEmpty with
    | none => return c
    | some s =>
      match Key.ofName? s with
      | none => Json.wrongData (unknownKey s)
      | some k =>
        if k ∈ seen then Json.wrongData ("duplicate field `" ++ k.name ++ "`")
        else do
          Json.colon
          members limit (k :: seen) (← k.read c)

/-- The items of an array, one for each key in turn; those after the last item keep their value. -/
def items (first : Bool) (c : Config) : List Key → Json.Reader Config
  | [] => return c
  | k :: rest => do
    if ← Json.nextItem? first then items false (← k.read c) rest
    else return c

/-- The settings as an object by name, or as an array in order. What is not given keeps its
default. -/
def reader : Json.Reader Config := do
  match ← Json.valueStart with
  | '\x7b' => do
    Json.skip
    let c ← members (Key.all.length + 1) [] {}
    Json.close '\x7d'
    return c
  | '[' => do
    Json.skip
    let c ← items true {} Key.all
    Json.close ']'
    return c
  | _ => Json.refuse "struct BridgeConfig"

/-- Reads the settings file at `path`. -/
def ofFile (fs : FileSystem) (path : Path) : Except ConfigError Config :=
  match fs.readText path with
  | .error e => .error (.io path e)
  | .ok text =>
    match Json.parse reader text with
    | .error e => .error (.json path e)
    | .ok c => .ok c

/-- Reads the settings file at `path`; a file that does not exist says nothing. -/
def ofFileIfPresent (fs : FileSystem) (path : Path) : Except ConfigError Config :=
  match ofFile fs path with
  | .error (.io _ .notFound) => .ok {}
  | other => other

/-! ### The environment -/

/-- The settings that the environment may give. -/
structure Environment where
  vmLibrary : Option String := none
  servicePort : Option String := none
  log : Option String := none
  deriving DecidableEq, Repr, Inhabited

namespace Environment

def vmLibraryName : String := "DART_BRIDGE_VM_LIBRARY"

def servicePortName : String := "DART_BRIDGE_SERVICE_PORT"

def logName : String := "DART_BRIDGE_LOG"

/-- The variables by name. -/
def ofLookup (lookup : String → Option String) : Environment :=
  ⟨lookup vmLibraryName, lookup servicePortName, lookup logName⟩

/-- The variables as bytes. One that is not well-formed UTF-8 counts as one that is not set. -/
def ofBytes (bytes? : String → Option (List UInt8)) : Environment :=
  ofLookup fun name => (bytes? name).bind Utf8.decode?

end Environment

/-- The decimal digits of a number of at most 16 bits, with an optional plus sign. -/
def port? (s : String) : Option UInt16 :=
  let digits := match s.toList with
    | '+' :: rest => rest
    | cs => cs
  if digits = [] then none
  else
    let value := digits.foldlM (fun n c =>
      if '0' ≤ c ∧ c ≤ '9' then
        let next := n * 10 + (c.toNat - '0'.toNat)
        if next < UInt16.size then some next else none
      else none) 0
    value.map UInt16.ofNat

/-- An environment value that replaces a setting: one that is not empty. -/
def override (value : Option String) : Option String := value.filter (· != "")

/-- The setting of the service from the text of a port: zero turns it off, another number turns it
on at that port, and anything else leaves it as it was. -/
def withPort (c : Config) (value : Option String) : Config :=
  match value.bind (port? <| Text.trim ·) with
  | none => c
  | some p => if p = 0 then { c with startServiceIsolate := false }
    else { c with startServiceIsolate := true, servicePort := p }

/-- A port text that was given but is none. -/
def badPort? (env : Environment) : Option String :=
  env.servicePort.filter fun s => (port? (Text.trim s)).isNone

/-- The settings with the ones from the environment in place of their own. -/
def withEnvironment (c : Config) (env : Environment) : Config :=
  let c := c.withPort env.servicePort
  { c with
    vmLibrary := ((override env.vmLibrary).map Path.mk).getD c.vmLibrary
    logFilter := (override env.log).getD c.logFilter }

/-- The name of the settings file beside an image. -/
def fileName : Path := ⟨"dart_bridge.json"⟩

/-- The settings file that belongs to an image and the defaults without one. -/
def besideImage (fs : FileSystem) (image : Path) : Except ConfigError Config :=
  match image.parent? with
  | some directory => ofFileIfPresent fs (directory.join fileName)
  | none => .ok {}

/-- The settings for an image from all three layers. -/
def load (fs : FileSystem) (env : Environment) (image : Path) : Except ConfigError Config :=
  (besideImage fs image).map (·.withEnvironment env)

/-! ### The package list -/

/-- The package list of an image: the explicit one, or the one of the package, whose root is the
directory of the image or, if that is called `lib`, the one above. -/
def packagesFor (c : Config) (image : Path) : Path :=
  match c.packageConfig with
  | some explicit => explicit
  | none =>
    let directory := image.parent?.getD ⟨""⟩
    let root :=
      if directory.fileName? = some "lib" then directory.parent?.getD directory else directory
    (root.join ⟨".dart_tool"⟩).join ⟨"package_config.json"⟩

end Config
end HostBridge
