import HostBridge.Scenario.Script

/-!
Classes and objects of a host that lives in memory. Members are declared one by one and numbered; a
later declaration of the same member takes the place of the earlier one in look-ups, while the
number of the earlier one keeps its meaning. Objects are bags of fields. A field keeps the values
that it was set to, of which the newest counts.
-/
namespace HostBridge.Scenario

/-- Names an object. -/
abbrev ObjectId := Nat

/-- An object: its class and what its fields were set to, newest first. -/
structure Instance where
  className : String
  fields : List (String × HostValue ObjectId)
  deriving Repr, Inhabited

/-- A declared member. -/
inductive Member where
  | constructor (className signature : String) (body : List HostAction)
  /-- Makes an object, of which nothing is put on record. -/
  | plainConstructor
  | method (className name signature : String) (isStatic : Bool) (body : List HostAction)
  | field (name : String)
  | staticField (className name : String)
  deriving Inhabited

/-- What members are looked up by. Constructors have no name and fields no descriptor. -/
structure LookupKey where
  className : String
  name : String
  signature : String
  kind : MemberKind
  deriving DecidableEq, Repr

def LookupKey.of (className : String) (key : MemberKey) : LookupKey :=
  match key.kind with
  | .constructor => ⟨className, "", key.signature, key.kind⟩
  | .field | .staticField => ⟨className, key.name, "", key.kind⟩
  | _ => ⟨className, key.name, key.signature, key.kind⟩

/-- The classes and the objects of a host, how many look-ups it has served, and how many exceptions
it has cleared. -/
structure Heap where
  members : Array Member := #[]
  table : List (LookupKey × Nat) := []
  statics : List ((String × String) × HostValue ObjectId) := []
  instances : Array Instance := #[]
  lookups : Nat := 0
  exceptions : Nat := 0
  /-- Whether no more references can be pinned. -/
  failPins : Bool := false
  deriving Inhabited

namespace Heap

/-- A value without references, as a value of the heap. -/
def lift (v : HostValue Empty) : HostValue ObjectId := v.map Empty.elim

/-- Enters a member under a key. -/
def enter (h : Heap) (key : LookupKey) (m : Member) : Heap :=
  { h with members := h.members.push m, table := (key, h.members.size) :: h.table }

/-- Puts a value under a key in front of the older ones. -/
def setStatic (h : Heap) (className name : String) (v : HostValue ObjectId) : Heap :=
  { h with statics := ((className, name), v) :: h.statics }

def getStatic (h : Heap) (className name : String) : HostValue ObjectId :=
  (h.statics.lookup (className, name)).getD .void

def declare (h : Heap) : Declaration → Heap
  | .constructor c s body => h.enter ⟨c, "", s, .constructor⟩ (.constructor c s body)
  | .method c n s isStatic body =>
    h.enter ⟨c, n, s, if isStatic then .staticMethod else .method⟩ (.method c n s isStatic body)
  | .field c n => h.enter ⟨c, n, "", .field⟩ (.field n)
  | .staticField c n initial =>
    (h.enter ⟨c, n, "", .staticField⟩ (.staticField c n)).setStatic c n (lift initial)

def declareAll (h : Heap) (ds : List Declaration) : Heap := ds.foldl declare h

/-- Enters a class whose objects are made without arguments, and which declares nothing else. -/
def addPlainClass (h : Heap) (className : String) : Heap :=
  h.enter ⟨className, "", "()V", .constructor⟩ .plainConstructor

/-- Whether a member of this class was declared. -/
def hasClass (h : Heap) (name : String) : Bool := h.table.any (·.1.className == name)

def find? (h : Heap) (className : String) (key : MemberKey) : Option Nat :=
  h.table.lookup (.of className key)

def countLookup (h : Heap) : Heap := { h with lookups := h.lookups + 1 }

def countException (h : Heap) : Heap := { h with exceptions := h.exceptions + 1 }

/-- Makes an object without fields. -/
def create (h : Heap) (className : String) : ObjectId × Heap :=
  (h.instances.size, { h with instances := h.instances.push ⟨className, []⟩ })

def className (h : Heap) (o : ObjectId) : String := (h.instances[o]?.map (·.className)).getD ""

/-- The value of a field, void if it was never set. -/
def get (h : Heap) (o : ObjectId) (name : String) : HostValue ObjectId :=
  ((h.instances[o]?).bind (·.fields.lookup name)).getD .void

def set (h : Heap) (o : ObjectId) (name : String) (v : HostValue ObjectId) : Heap :=
  { h with instances := h.instances.modify o fun i =>
      { i with fields := (name, v) :: i.fields } }

/-- A value with objects told by their class. -/
def tell (h : Heap) (v : HostValue ObjectId) : HostValue String := v.map h.className

end Heap
end HostBridge.Scenario
