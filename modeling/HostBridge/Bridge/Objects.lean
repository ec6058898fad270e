import HostBridge.Bridge.Foreign

/-!
Objects behind handles. The table holds one reference to each of its objects; who looks a handle up
gets a reference of its own.
-/
namespace HostBridge.Objects

variable {P : Platform} (F : Foreign P (Exec P))

/-- Puts a reference into the table and drops the one that gives way to it, if any. -/
def store (o : Option P.Object) : Exec P Handle := do
  let before ← Exec.bridge (·.handles)
  let (h, table) := before.store o
  Exec.update fun b => { b with handles := table }
  if let some old := before.replaced o then F.host.drop old
  return h

/-- A reference to the object behind a handle. -/
def lookup (h : Handle) : Exec P (Option P.Object) := do
  let (found, new, table) := (← Exec.bridge (·.handles)).get h
  Exec.update fun b => { b with handles := table }
  if new then Exec.report (.unknownHandle h)
  if let some o := found then F.host.share o
  return found

/-- Takes a handle out of the table, if it is there. -/
def release (h : Handle) : Exec P Bool := do
  let (found, table) := (← Exec.bridge (·.handles)).release h
  Exec.update fun b => { b with handles := table }
  if let some o := found then F.host.drop o
  return found.isSome

/-- Empties the table and tells how many objects were in it. -/
def releaseAll : Exec P Nat := do
  let (found, table) := (← Exec.bridge (·.handles)).releaseAll
  Exec.update fun b => { b with handles := table }
  found.forM F.host.drop
  return found.length

def count : Exec P Nat := Exec.bridge (·.handles.count)

end HostBridge.Objects
