import HostBridge.Kind

/-!
The cache of resolved types and members. An entry is made by the first look-up that succeeds and
stays as it is until the cache is cleared; a look-up that fails leaves no entry.
-/
namespace HostBridge

/-- What tells members apart. -/
structure MemberKey where
  className : String
  name : String
  signature : String
  kind : MemberKind
  deriving DecidableEq, Repr

/-- Resolved types by name and members by key, and how many look-ups have succeeded. -/
structure MemberCache (γ μ : Type) where
  types : List (String × γ) := []
  members : List (MemberKey × μ) := []
  resolutions : Nat := 0
  deriving Repr

namespace MemberCache

variable {γ μ : Type}

def type? (c : MemberCache γ μ) (name : String) : Option γ := c.types.lookup name

def member? (c : MemberCache γ μ) (key : MemberKey) : Option μ := c.members.lookup key

def size (c : MemberCache γ μ) : Nat := c.types.length + c.members.length

/-- Records that the look-up of a type succeeded. The entry that is there by then is given back and
kept; `fresh` says whether it is the new one. -/
def addType (c : MemberCache γ μ) (name : String) (token : γ) : γ × Bool × MemberCache γ μ :=
  let c := { c with resolutions := c.resolutions + 1 }
  match c.type? name with
  | some old => (old, false, c)
  | none => (token, true, { c with types := (name, token) :: c.types })

/-- Records that the look-up of a member succeeded, as for a type. -/
def addMember (c : MemberCache γ μ) (key : MemberKey) (token : μ) : μ × MemberCache γ μ :=
  let c := { c with resolutions := c.resolutions + 1 }
  match c.member? key with
  | some old => (old, c)
  | none => (token, { c with members := (key, token) :: c.members })

/-- Drops every entry; the count of look-ups goes on. -/
def clear (c : MemberCache γ μ) : MemberCache γ μ :=
  { c with types := [], members := [] }

section
variable {c : MemberCache γ μ} {name : String} {key : MemberKey}

theorem addType_of_some {old : γ} (there : c.type? name = some old) (token : γ) :
    c.addType name token = (old, false, { c with resolutions := c.resolutions + 1 }) := by
  unfold type? at there
  simp only [addType, type?, there]

theorem addType_of_none (missing : c.type? name = none) (token : γ) :
    c.addType name token = (token, true,
      { c with types := (name, token) :: c.types, resolutions := c.resolutions + 1 }) := by
  unfold type? at missing
  simp only [addType, type?, missing]

theorem addMember_of_some {old : μ} (there : c.member? key = some old) (token : μ) :
    c.addMember key token = (old, { c with resolutions := c.resolutions + 1 }) := by
  unfold member? at there
  simp only [addMember, member?, there]

theorem addMember_of_none (missing : c.member? key = none) (token : μ) :
    c.addMember key token = (token,
      { c with members := (key, token) :: c.members, resolutions := c.resolutions + 1 }) := by
  unfold member? at missing
  simp only [addMember, member?, missing]

end

section
variable (c : MemberCache γ μ) (name : String) (key : MemberKey) (type : γ) (member : μ)

@[simp] theorem resolutions_addType :
    (c.addType name type).2.2.resolutions = c.resolutions + 1 := by
  unfold addType
  dsimp only
  split <;> rfl

@[simp] theorem resolutions_addMember :
    (c.addMember key member).2.resolutions = c.resolutions + 1 := by
  unfold addMember
  dsimp only
  split <;> rfl

/-- After a type was found, its name has the token that is given back. -/
@[simp] theorem type?_addType_self :
    (c.addType name type).2.2.type? name = some (c.addType name type).1 := by
  cases there : c.type? name with
  | some old =>
    rw [addType_of_some there]
    exact there
  | none =>
    rw [addType_of_none there]
    exact List.lookup_cons_self

@[simp] theorem member?_addMember_self :
    (c.addMember key member).2.member? key = some (c.addMember key member).1 := by
  cases there : c.member? key with
  | some old =>
    rw [addMember_of_some there]
    exact there
  | none =>
    rw [addMember_of_none there]
    exact List.lookup_cons_self

/-- A new entry hides no other. -/
@[simp] theorem type?_addType_of_ne {other : String} (ne : other ≠ name) :
    (c.addType name type).2.2.type? other = c.type? other := by
  cases there : c.type? name with
  | some old =>
    rw [addType_of_some there]
    rfl
  | none =>
    rw [addType_of_none there]
    simp [type?, List.lookup_cons, beq_false_of_ne ne]

@[simp] theorem member?_addMember_of_ne {other : MemberKey} (ne : other ≠ key) :
    (c.addMember key member).2.member? other = c.member? other := by
  cases there : c.member? key with
  | some old =>
    rw [addMember_of_some there]
    rfl
  | none =>
    rw [addMember_of_none there]
    simp [member?, List.lookup_cons, beq_false_of_ne ne]

@[simp] theorem member?_addType : (c.addType name type).2.2.member? = c.member? := by
  unfold addType
  dsimp only
  split <;> rfl

@[simp] theorem type?_addMember : (c.addMember key member).2.type? = c.type? := by
  unfold addMember
  dsimp only
  split <;> rfl

end

/-! ### Trees of calls -/

/-- A call that may have to resolve its key. The resolver makes the calls in `first` and then gives
`result`. -/
inductive Call (γ μ ε : Type) where
  | type (name : String) (first : List (Call γ μ ε)) (result : Except ε γ)
  | member (key : MemberKey) (first : List (Call γ μ ε)) (result : Except ε μ)
  | clear
  | size

/-- What a call gives: the token or the failure, and, when the resolver ran, what its own calls
gave. -/
inductive Answer (γ μ ε : Type) where
  | type (result : Except ε γ) (ran : Option (List (Answer γ μ ε)))
  | member (result : Except ε μ) (ran : Option (List (Answer γ μ ε)))
  | cleared (entries : Nat)
  | size (entries resolutions : Nat)

variable {ε : Type}

mutual

/-- One call with all calls that its resolver makes. -/
def Call.run (c : MemberCache γ μ) : Call γ μ ε → Answer γ μ ε × MemberCache γ μ
  | .type name first result =>
    match c.type? name with
    | some token => (.type (.ok token) none, c)
    | none =>
      let (answers, c) := Call.runAll c first
      match result with
      | .error e => (.type (.error e) (some answers), c)
      | .ok token =>
        let (kept, _, c) := c.addType name token
        (.type (.ok kept) (some answers), c)
  | .member key first result =>
    match c.member? key with
    | some token => (.member (.ok token) none, c)
    | none =>
      let (answers, c) := Call.runAll c first
      match result with
      | .error e => (.member (.error e) (some answers), c)
      | .ok token =>
        let (kept, c) := c.addMember key token
        (.member (.ok kept) (some answers), c)
  | .clear => (.cleared c.size, c.clear)
  | .size => (.size c.size c.resolutions, c)

/-- Calls one after another. -/
def Call.runAll (c : MemberCache γ μ) :
    List (Call γ μ ε) → List (Answer γ μ ε) × MemberCache γ μ
  | [] => ([], c)
  | call :: rest =>
    let (answer, c) := call.run c
    let (answers, c) := Call.runAll c rest
    (answer :: answers, c)

end

end MemberCache
end HostBridge
