import HostBridge.Proofs.Programs

/-!
A plain world to run a bridge in. Its host resolves every name, makes numbered objects and has one
field; its VM never fails and runs a given program as the entry point. General statements are tried
on it.
-/
namespace HostBridge.Plain

/-- Members are their own tokens, and foreign code remembers the one field of the host. -/
def platform : Platform where
  Object := Nat
  Class := String
  Member := MemberKey
  Isolate := Nat
  Handler := Unit
  Sink := Unit
  Note := Empty
  Signal := Empty
  Ledger := Unit
  World := HostValue Nat
  Extra _ := Empty

def host : Host platform (Act platform) where
  resolveType name := pure (.ok name)
  resolveMember _ key := pure (.ok key)
  construct _ _ _ := pure (.ok (some (0 : Nat)))
  invoke _ _ result _ := pure (.ok (.zero result))
  readField _ _ _ := Act.gets .ok
  writeField _ _ value := Act.world fun _ => (.ok (), value)
  shareObject _ ledger world := (ledger, world)
  dropObject _ ledger world := (ledger, world)
  shareClass _ ledger world := (ledger, world)
  dropClass _ ledger world := (ledger, world)

def vm (main : Act platform (Except VmError Unit)) : Vm platform (Act platform) where
  start _ := pure (.ok ())
  loadImage _ := pure (.ok (0 : Nat))
  enterIsolate _ := pure (.ok ())
  exitIsolate := pure ()
  enterScope := pure ()
  exitScope := pure ()
  entryPoint _ := main
  drain := pure (.ok ())
  shutdownIsolate _ := pure ()
  stop := pure ()

/-- All foreign code of the world, with `main` as the entry point. -/
def foreign (main : Act platform (Except VmError Unit)) : Foreign platform (Act platform) where
  host := host
  vm := vm main
  handler _ k _ := pure k.default
  sink _ _ _ := pure ()
  extra o := nomatch o

/-- The world before the first call: one image and an empty field. -/
def start : State platform where
  files := ⟨[(["app"], [])], []⟩
  ledger := ()
  world := .object none

def imagePath : Path := ⟨"app"⟩

/-- One object is made. -/
def creation : Act platform Unit :=
  (Act.op (.createObject "Point" "(I)V" [.ofInt32 7])).bind fun _ => pure ()

/-- A program that installs a handler and makes an object, and then fails. -/
def carelessMain : Act platform (Except VmError Unit) :=
  (Act.op (.setHandler .tick (some ()))).bind fun _ =>
    (Act.op (.createObject "Point" "()V" [])).bind fun _ =>
      pure (.error (.entryPointFailed "main" "boom"))

theorem image_opens (config : Config) :
    ∃ image, Image.open? start.files imagePath config = .ok image := by
  have found : start.files.read imagePath = .ok [] := rfl
  unfold Image.open?
  rw [found]
  exact ⟨_, rfl⟩

/-! ### A session -/

/-- The plain world with a program that does nothing. -/
def idle : Foreign platform (Act platform) := foreign (pure (.ok ()))

/-- The plain world while a session of an image runs. -/
def running (image : Image) : State platform :=
  { start with
    bridge := {
      phase := .running
      isolate := some (0 : Nat)
      serviceUrl := Config.serviceUrl {} }
    record := [.vmCall .exitIsolate, .vmCall .exitScope, .vmReturn .done, .vmCall .drain,
      .vmReturn .done, .vmCall (.entryPoint "main"), .vmCall .enterScope, .vmReturn .done,
      .vmCall (.enterIsolate (0 : Nat)), .vmReturn (.loaded (0 : Nat)), .vmCall (.loadImage image),
      .vmReturn .done, .vmCall (.start {})] }

/-- A launch of the image, on whatever thread. -/
def launching : Act platform Unit :=
  (Act.op (.launchWith imagePath {})).bind fun _ => pure ()

/-- The plain world with such a program and other handlers. -/
def handling (handler : Unit → (k : EventKind) → Args k.params → Act platform k.Output) :
    Foreign platform (Act platform) :=
  { idle with handler := handler }

theorem handling_runs
    (handler : Unit → (k : EventKind) → Args k.params → Act platform k.Output) :
    ∃ image, (System.ofPrograms (handling handler)).exec 2 launching start =
      (.value (), running image) := by
  obtain ⟨image, opened⟩ := image_opens {}
  refine ⟨image, ?_⟩
  have launched :
      Lifecycle.launchWith ((System.ofPrograms (handling handler)).foreign 1) imagePath {} start =
        (.value (.ok ()), running image) := by
    unfold Lifecycle.launchWith
    rw [Exec.run_bind, Exec.run_gets]
    simp only [opened]
    rfl
  change (Lifecycle.launchWith ((System.ofPrograms (handling handler)).foreign 1) imagePath {} >>=
    fun _ => pure ()) start = _
  rw [Exec.run_bind, launched]
  rfl

theorem launching_runs :
    ∃ image, (System.ofPrograms idle).exec 2 launching start = (.value (), running image) :=
  handling_runs fun _ k _ => pure k.default

end HostBridge.Plain
