import HostBridge.Config
import Mathlib.Data.List.Perm.Subperm
import Mathlib.Data.List.Nodup

/-!
The settings file as a text. It is an object whose members give settings by name, each at most once
and in any order, or an array that gives the first settings in their order. What the reader of the
file makes of it are the defaults with the given settings in their places.
-/
namespace HostBridge

/-! ### Tokens -/

namespace Json

variable {α β : Type}

/-- After blanks the character `c` stands in front, and `after` follows it. -/
def Stands (c : Char) (before after : List UInt8) : Prop :=
  ∃ b, before.dropWhile isBlank = b :: after ∧ toChar b = c

/-- What comes next in a sequence: the first one stands there, and any other after a comma. -/
def Separated (first : Bool) (before next : List UInt8) : Prop :=
  if first then next = before else Stands ',' before next

theorem dropWhile_blank_idem (bytes : List UInt8) :
    (bytes.dropWhile isBlank).dropWhile isBlank = bytes.dropWhile isBlank := by
  induction bytes with
  | nil => rfl
  | cons b bytes ih =>
    by_cases blank : isBlank b
    · simpa [blank] using ih
    · simp [blank]

/-- A reader goes on from where the one before it stopped. -/
theorem bind_eq_ok {x : Reader α} {f : α → Reader β} {bytes rest : List UInt8} {b : β} :
    (x >>= f) bytes = .ok (b, rest) ↔
      ∃ a left, x bytes = .ok (a, left) ∧ f a left = .ok (b, rest) := by
  change (x bytes >>= fun r => f r.1 r.2) = _ ↔ _
  rcases x bytes with e | ⟨a, left⟩
  · constructor
    · intro h
      cases h
    · rintro ⟨a, left, h, -⟩
      cases h
  · constructor
    · intro h
      exact ⟨a, left, rfl, h⟩
    · rintro ⟨a', left', h, h'⟩
      cases h
      exact h'

theorem pure_eq_ok {a b : α} {bytes rest : List UInt8} :
    (pure a : Reader α) bytes = .ok (b, rest) ↔ a = b ∧ bytes = rest := by
  change Except.ok (a, bytes) = .ok (b, rest) ↔ _
  simp

theorem peekToken?_run (bytes : List UInt8) :
    peekToken? bytes = .ok ((bytes.dropWhile isBlank).head?.map toChar,
      bytes.dropWhile isBlank) := rfl

theorem skip_run (bytes : List UInt8) : skip bytes = .ok ((), bytes.tail) := rfl

/-- What stands in front after blanks decides how a reader goes on. -/
theorem peekToken?_bind (f : Option Char → Reader α) (bytes : List UInt8) :
    (peekToken? >>= f) bytes =
      f ((bytes.dropWhile isBlank).head?.map toChar) (bytes.dropWhile isBlank) := rfl

theorem Stands.of_blank {c : Char} {before after : List UInt8} :
    Stands c (before.dropWhile isBlank) after ↔ Stands c before after := by
  unfold Stands
  rw [dropWhile_blank_idem]

theorem Stands.head {c : Char} {before after : List UInt8} (h : Stands c before after) :
    (before.dropWhile isBlank).head?.map toChar = some c ∧
      (before.dropWhile isBlank).tail = after := by
  obtain ⟨b, stands, same⟩ := h
  rw [stands]
  exact ⟨congrArg some same, rfl⟩

theorem Stands.of_head {c : Char} {before : List UInt8}
    (h : (before.dropWhile isBlank).head?.map toChar = some c) :
    Stands c before (before.dropWhile isBlank).tail := by
  cases rest : before.dropWhile isBlank with
  | nil => simp [rest] at h
  | cons b after =>
    rw [rest] at h
    exact ⟨b, rest, Option.some.inj h⟩

theorem Stands.unique {c d : Char} {before after other : List UInt8} (h : Stands c before after)
    (h' : Stands d before other) : c = d :=
  Option.some.inj (h.head.1.symm.trans h'.head.1)

/-- Goes on if a certain character stands in front. -/
def expect (c : Char) (x : Reader α) : Reader α := do
  match ← peekToken? with
  | some d => if d = c then x else malformed
  | none => endedEarly

theorem expect_eq_ok {c : Char} {x : Reader α} {before rest : List UInt8} {a : α} :
    expect c x before = .ok (a, rest) ↔
      (∃ after, Stands c before after) ∧ x (before.dropWhile isBlank) = .ok (a, rest) := by
  unfold expect
  rw [peekToken?_bind]
  constructor
  · intro h
    rcases head : (before.dropWhile isBlank).head?.map toChar with _ | d
    · rw [head] at h
      cases h
    · rw [head] at h
      by_cases same : d = c
      · subst same
        exact ⟨⟨_, .of_head head⟩, by simpa using h⟩
      · simp only [same, if_false] at h
        cases h
  · rintro ⟨⟨after, stands⟩, h⟩
    rw [stands.head.1]
    simpa using h

theorem expect_skip_eq_ok {c : Char} {before after : List UInt8} :
    expect c skip before = .ok ((), after) ↔ Stands c before after := by
  rw [expect_eq_ok, skip_run]
  constructor
  · rintro ⟨⟨left, stands⟩, h⟩
    cases h
    rw [stands.head.2]
    exact stands
  · intro stands
    rw [stands.head.2]
    exact ⟨⟨after, stands⟩, rfl⟩

theorem close_eq_ok {c : Char} {before after : List UInt8} :
    close c before = .ok ((), after) ↔ Stands c before after :=
  expect_skip_eq_ok

theorem colon_eq_ok {before after : List UInt8} :
    colon before = .ok ((), after) ↔ Stands ':' before after := by
  have same : colon = expect ':' skip := by
    unfold colon expect
    congr 1
    funext found
    split <;> simp_all
  rw [same, expect_skip_eq_ok]

/-- A string in quotes as the next key. -/
def quotedKey : Reader (Option String) := expect '"' do
  skip
  return some (← stringBody)

theorem quotedKey_eq_ok {before rest : List UInt8} {found : Option String} :
    quotedKey before = .ok (found, rest) ↔
      ∃ s body, Stands '"' before body ∧ stringBody body = .ok (s, rest) ∧ found = some s := by
  unfold quotedKey
  rw [expect_eq_ok]
  constructor
  · rintro ⟨⟨body, stands⟩, h⟩
    obtain ⟨_, left, skipped, h⟩ := bind_eq_ok.mp h
    cases skipped
    obtain ⟨s, left, read, h⟩ := bind_eq_ok.mp h
    obtain ⟨rfl, rfl⟩ := pure_eq_ok.mp h
    rw [stands.head.2] at read
    exact ⟨s, body, stands, read, rfl⟩
  · rintro ⟨s, body, stands, read, rfl⟩
    refine ⟨⟨body, stands⟩, bind_eq_ok.mpr ⟨(), body, ?_, bind_eq_ok.mpr ⟨s, rest, read, rfl⟩⟩⟩
    rw [skip_run, stands.head.2]

theorem quotedKey_eq : quotedKey = (do
    match ← peekToken? with
    | some '"' => do skip; return some (← stringBody)
    | some _ => malformed
    | none => endedEarly) := by
  unfold quotedKey expect
  congr 1
  funext found
  rcases found with _ | c
  · rfl
  · by_cases quote : c = '"'
    · subst quote
      rfl
    · simp [quote]

theorem nextKey?_eq (first : Bool) : nextKey? first = (do
    match ← peekToken? with
    | some c =>
      if c = '\x7d' then return none
      else if first then quotedKey
      else if c = ',' then do skip; quotedKey
      else malformed
    | none => endedEarly) := by
  unfold nextKey?
  rw [quotedKey_eq]
  dsimp only
  congr 1
  funext found
  rcases found with _ | c
  · rfl
  · by_cases brace : c = '\x7d'
    · subst brace
      rfl
    · dsimp only
      rw [if_neg brace]
      split
      case h_1 same => exact (brace (Option.some.inj same)).elim
      case h_2 same =>
        cases same
        rfl
      case h_3 same => cases same

theorem nextKey?_eq_none {first : Bool} {before rest : List UInt8} :
    nextKey? first before = .ok (none, rest) ↔
      rest = before.dropWhile isBlank ∧ ∃ after, Stands '\x7d' before after := by
  rw [nextKey?_eq, peekToken?_bind]
  constructor
  · intro h
    rcases head : (before.dropWhile isBlank).head?.map toChar with _ | c
    · rw [head] at h
      cases h
    · rw [head] at h
      dsimp only at h
      have noKey (bytes : List UInt8) : quotedKey bytes ≠ .ok (none, rest) := by
        intro key
        obtain ⟨s, body, -, -, none⟩ := quotedKey_eq_ok.mp key
        cases none
      split at h
      case isTrue brace =>
        subst brace
        exact ⟨(pure_eq_ok.mp h).2.symm, _, .of_head head⟩
      case isFalse =>
        split at h
        · exact (noKey _ h).elim
        · split at h
          · obtain ⟨_, left, -, key⟩ := bind_eq_ok.mp h
            exact (noKey _ key).elim
          · cases h
  · rintro ⟨rfl, after, stands⟩
    rw [stands.head.1]
    rfl

theorem nextKey?_eq_some {first : Bool} {before rest : List UInt8} {s : String} :
    nextKey? first before = .ok (some s, rest) ↔
      ∃ next body, Separated first before next ∧ Stands '"' next body ∧
        stringBody body = .ok (s, rest) := by
  rw [nextKey?_eq, peekToken?_bind]
  constructor
  · intro h
    rcases head : (before.dropWhile isBlank).head?.map toChar with _ | c
    · rw [head] at h
      cases h
    · rw [head] at h
      dsimp only at h
      split at h
      case isTrue => cases (pure_eq_ok.mp h).1
      case isFalse =>
        split at h
        case isTrue isFirst =>
          obtain ⟨s', body, stands, read, same⟩ := quotedKey_eq_ok.mp h
          cases same
          exact ⟨before, body, by simp [Separated, isFirst], Stands.of_blank.mp stands, read⟩
        case isFalse notFirst =>
          split at h
          case isTrue comma =>
            subst comma
            obtain ⟨_, left, skipped, key⟩ := bind_eq_ok.mp h
            cases skipped
            obtain ⟨s', body, stands, read, same⟩ := quotedKey_eq_ok.mp key
            cases same
            refine ⟨_, body, ?_, stands, read⟩
            simpa [Separated, notFirst] using Stands.of_head head
          case isFalse => cases h
  · rintro ⟨next, body, separated, stands, read⟩
    unfold Separated at separated
    split at separated
    case isTrue isFirst =>
      subst separated
      rw [stands.head.1]
      simp only [isFirst, if_true]
      rw [if_neg (by decide)]
      exact quotedKey_eq_ok.mpr ⟨s, body, Stands.of_blank.mpr stands, read, rfl⟩
    case isFalse notFirst =>
      rw [separated.head.1]
      simp only [notFirst, if_true]
      rw [if_neg (by decide)]
      refine bind_eq_ok.mpr ⟨(), next, ?_, quotedKey_eq_ok.mpr ⟨s, body, stands, read, rfl⟩⟩
      rw [skip_run, separated.head.2]

/-- Whether an item stands there; a bracket after a comma is a fault. -/
def itemAfterComma : Reader Bool := do
  match ← peekToken? with
  | some c => if c = ']' then malformed else return true
  | none => endedEarly

theorem itemAfterComma_eq : itemAfterComma = (do
    match ← peekToken? with
    | some ']' => malformed
    | some _ => return true
    | none => endedEarly) := by
  unfold itemAfterComma
  congr 1
  funext found
  rcases found with _ | c
  · rfl
  · by_cases bracket : c = ']'
    · subst bracket
      rfl
    · simp [bracket]

theorem nextItem?_eq (first : Bool) : nextItem? first = (do
    match ← peekToken? with
    | some c =>
      if c = ']' then return false
      else if first then return true
      else if c = ',' then do skip; itemAfterComma
      else malformed
    | none => endedEarly) := by
  unfold nextItem?
  rw [itemAfterComma_eq]
  congr 1
  funext found
  rcases found with _ | c
  · rfl
  · by_cases bracket : c = ']'
    · subst bracket
      rfl
    · dsimp only
      rw [if_neg bracket]
      split
      case h_1 same => exact (bracket (Option.some.inj same)).elim
      case h_2 same =>
        cases same
        rfl
      case h_3 same => cases same

theorem itemAfterComma_eq_ok {more : Bool} {before rest : List UInt8} :
    itemAfterComma before = .ok (more, rest) ↔ more = true ∧
      ∃ c after, Stands c before after ∧ c ≠ ']' ∧ rest = before.dropWhile isBlank := by
  unfold itemAfterComma
  rw [peekToken?_bind]
  constructor
  · intro h
    rcases head : (before.dropWhile isBlank).head?.map toChar with _ | c
    · rw [head] at h
      cases h
    · rw [head] at h
      dsimp only at h
      split at h
      case isTrue => cases h
      case isFalse other =>
        obtain ⟨rfl, rfl⟩ := pure_eq_ok.mp h
        exact ⟨rfl, c, _, .of_head head, other, rfl⟩
  · rintro ⟨rfl, c, after, stands, other, rfl⟩
    rw [stands.head.1]
    dsimp only
    rw [if_neg other]
    rfl

/-- The bracket that closes an array stands next, or its next item does. -/
theorem nextItem?_eq_ok {first more : Bool} {before rest : List UInt8} :
    nextItem? first before = .ok (more, rest) ↔
      (more = false ∧ rest = before.dropWhile isBlank ∧ ∃ after, Stands ']' before after) ∨
      (more = true ∧ ∃ next c after, Separated first before next ∧ Stands c next after ∧ c ≠ ']' ∧
        rest = next.dropWhile isBlank) := by
  rw [nextItem?_eq, peekToken?_bind]
  constructor
  · intro h
    rcases head : (before.dropWhile isBlank).head?.map toChar with _ | c
    · rw [head] at h
      cases h
    · rw [head] at h
      dsimp only at h
      split at h
      case isTrue bracket =>
        subst bracket
        obtain ⟨rfl, rfl⟩ := pure_eq_ok.mp h
        exact .inl ⟨rfl, rfl, _, .of_head head⟩
      case isFalse other =>
        split at h
        case isTrue isFirst =>
          obtain ⟨rfl, rfl⟩ := pure_eq_ok.mp h
          exact .inr ⟨rfl, before, c, _, by simp [Separated, isFirst], .of_head head, other, rfl⟩
        case isFalse notFirst =>
          split at h
          case isTrue comma =>
            subst comma
            obtain ⟨_, left, skipped, h⟩ := bind_eq_ok.mp h
            cases skipped
            obtain ⟨rfl, d, after, stands, other, rfl⟩ := itemAfterComma_eq_ok.mp h
            refine .inr ⟨rfl, _, d, after, ?_, stands, other, rfl⟩
            simpa [Separated, notFirst] using Stands.of_head head
          case isFalse => cases h
  · rintro (⟨rfl, rfl, after, stands⟩ | ⟨rfl, next, c, after, separated, stands, other, rfl⟩)
    · rw [stands.head.1]
      rfl
    · unfold Separated at separated
      split at separated
      case isTrue isFirst =>
        subst separated
        rw [stands.head.1]
        dsimp only
        rw [if_neg other, if_pos isFirst]
        rfl
      case isFalse notFirst =>
        rw [separated.head.1]
        dsimp only
        rw [if_neg (by decide), if_neg notFirst, if_pos rfl]
        refine bind_eq_ok.mpr ⟨(), next, ?_,
          itemAfterComma_eq_ok.mpr ⟨rfl, c, after, stands, other, rfl⟩⟩
        rw [skip_run, separated.head.2]

theorem valueStart_eq_ok {c : Char} {before rest : List UInt8} :
    valueStart before = .ok (c, rest) ↔
      rest = before.dropWhile isBlank ∧ ∃ after, Stands c before after := by
  unfold valueStart
  rw [peekToken?_bind]
  constructor
  · intro h
    rcases head : (before.dropWhile isBlank).head?.map toChar with _ | d
    · rw [head] at h
      cases h
    · rw [head] at h
      obtain ⟨rfl, rfl⟩ := pure_eq_ok.mp h
      exact ⟨rfl, _, .of_head head⟩
  · rintro ⟨rfl, after, stands⟩
    rw [stands.head.1]
    rfl

theorem finished_eq_ok {before rest : List UInt8} :
    finished before = .ok ((), rest) ↔ before.dropWhile isBlank = [] ∧ rest = [] := by
  unfold finished
  rw [peekToken?_bind]
  cases before.dropWhile isBlank with
  | nil => exact ⟨fun h => ⟨rfl, (pure_eq_ok.mp h).2.symm⟩, fun h => pure_eq_ok.mpr ⟨rfl, h.2.symm⟩⟩
  | cons b after =>
    constructor
    · intro h
      cases h
    · intro h
      cases h.1

/-- A text is read as one value if nothing but blanks is left after it. -/
theorem parse_eq_ok {x : Reader α} {s : String} {a : α} :
    parse x s = .ok a ↔
      ∃ left, x (Utf8.encode s) = .ok (a, left) ∧ left.dropWhile isBlank = [] := by
  have run (r : Except JsonError (α × List UInt8)) :
      Prod.fst <$> r = .ok a ↔ ∃ rest, r = .ok (a, rest) := by
    rcases r with e | ⟨b, rest⟩
    · exact ⟨nofun, nofun⟩
    · constructor
      · intro h
        cases h
        exact ⟨rest, rfl⟩
      · rintro ⟨rest', h⟩
        cases h
        rfl
  refine (run _).trans ?_
  constructor
  · rintro ⟨rest, h⟩
    obtain ⟨a', left, read, h⟩ := bind_eq_ok.mp h
    obtain ⟨_, rest', h', same⟩ := bind_eq_ok.mp h
    obtain ⟨rfl, rfl⟩ := pure_eq_ok.mp same
    exact ⟨left, read, (finished_eq_ok.mp h').1⟩
  · rintro ⟨left, read, blank⟩
    refine ⟨[], bind_eq_ok.mpr ⟨a, left, read, bind_eq_ok.mpr ⟨(), [], ?_, rfl⟩⟩⟩
    exact finished_eq_ok.mpr ⟨blank, rfl⟩

/-- What stands between brackets. -/
theorem enclosed_eq_ok {x : Reader α} {bracket : Char} {before after : List UInt8} {a : α} :
    (do skip; let a ← x; close bracket; return a : Reader α) before = .ok (a, after) ↔
      ∃ left, x before.tail = .ok (a, left) ∧ close bracket left = .ok ((), after) := by
  constructor
  · intro h
    obtain ⟨_, body, skipped, h⟩ := bind_eq_ok.mp h
    cases skipped
    obtain ⟨a', left, read, h⟩ := bind_eq_ok.mp h
    obtain ⟨_, after', closed, same⟩ := bind_eq_ok.mp h
    obtain ⟨rfl, rfl⟩ := pure_eq_ok.mp same
    exact ⟨left, read, closed⟩
  · rintro ⟨left, read, closed⟩
    refine bind_eq_ok.mpr ⟨(), before.tail, skip_run _, bind_eq_ok.mpr ⟨a, left, read, ?_⟩⟩
    exact bind_eq_ok.mpr ⟨(), after, closed, rfl⟩

/-! ### Values -/

/-- A reader that passes over blanks first. -/
def PassesBlanks (x : Reader α) : Prop := ∀ bytes, x (bytes.dropWhile isBlank) = x bytes

theorem PassesBlanks.bind {x : Reader α} (h : PassesBlanks x) (f : α → Reader β) :
    PassesBlanks (x >>= f) := by
  intro bytes
  change (x _ >>= fun r => f r.1 r.2) = (x bytes >>= fun r => f r.1 r.2)
  rw [h bytes]

theorem passesBlanks_peekToken? : PassesBlanks peekToken? := by
  intro bytes
  rw [peekToken?_run, peekToken?_run, dropWhile_blank_idem]

theorem passesBlanks_valueStart : PassesBlanks valueStart := passesBlanks_peekToken?.bind _

/-- A reader that never gives a value. -/
def Fails (x : Reader α) : Prop := ∀ bytes a rest, x bytes ≠ .ok (a, rest)

theorem fails_throw {e : JsonError} : Fails (throw e : Reader α) := nofun

theorem fails_bind {x : Reader α} {f : α → Reader β} (h : ∀ a, Fails (f a)) :
    Fails (x >>= f) := by
  intro bytes b rest run
  obtain ⟨a, left, -, run⟩ := bind_eq_ok.mp run
  exact h a _ _ _ run

theorem fails_refuse (expected : String) : Fails (refuse expected : Reader α) := by
  unfold refuse
  apply fails_bind
  intro found
  split
  case h_9 =>
    split
    · exact fails_bind fun _ => fails_throw
    · exact fails_throw
  all_goals first
    | exact fails_throw
    | exact fails_bind fun _ => fails_throw
    | exact fails_bind fun _ => fails_bind fun _ => fails_throw

/-- What begins with a value does not begin with a bracket that closes. -/
theorem stands_of_valueStart {f : Char → Reader α} {before rest : List UInt8} {a : α}
    (closes : Fails (f ']')) (run : (valueStart >>= f) before = .ok (a, rest)) :
    ∃ c after, Stands c before after ∧ c ≠ ']' := by
  obtain ⟨c, left, started, run⟩ := bind_eq_ok.mp run
  obtain ⟨rfl, after, stands⟩ := valueStart_eq_ok.mp started
  refine ⟨c, after, stands, ?_⟩
  rintro rfl
  exact closes _ _ _ run

theorem stands_of_text {expected s : String} {before rest : List UInt8}
    (run : text expected before = .ok (s, rest)) : ∃ c after, Stands c before after ∧ c ≠ ']' := by
  unfold text at run
  refine stands_of_valueStart ?_ run
  rw [if_neg (by decide)]
  exact fails_refuse expected

theorem stands_of_boolean {expected : String} {b : Bool} {before rest : List UInt8}
    (run : boolean expected before = .ok (b, rest)) :
    ∃ c after, Stands c before after ∧ c ≠ ']' :=
  stands_of_valueStart (fails_refuse expected) run

theorem stands_of_word16 {expected : String} {n : UInt16} {before rest : List UInt8}
    (run : word16 expected before = .ok (n, rest)) :
    ∃ c after, Stands c before after ∧ c ≠ ']' := by
  unfold word16 at run
  refine stands_of_valueStart ?_ run
  rw [if_neg (by decide)]
  exact fails_refuse expected

theorem stands_of_optional {expected : String} {s : Option String} {before rest : List UInt8}
    (run : optional (text expected) before = .ok (s, rest)) :
    ∃ c after, Stands c before after ∧ c ≠ ']' := by
  unfold optional at run
  rw [peekToken?_bind] at run
  rcases head : (before.dropWhile isBlank).head?.map toChar with _ | c
  · rw [head] at run
    obtain ⟨s, left, read, -⟩ := bind_eq_ok.mp run
    obtain ⟨c, after, stands, other⟩ := stands_of_text read
    exact ⟨c, after, Stands.of_blank.mp stands, other⟩
  · refine ⟨c, _, .of_head head, ?_⟩
    rintro rfl
    rw [head] at run
    obtain ⟨s, left, read, -⟩ := bind_eq_ok.mp run
    obtain ⟨c, after, stands, other⟩ := stands_of_text read
    exact other ((Stands.of_blank.mp stands).unique (.of_head head))

end Json

/-! ### Settings -/

namespace Config

namespace Key

/-- The values of a setting. -/
def Value : Key → Type
  | vmLibrary => Path
  | entryPoint => String
  | startServiceIsolate => Bool
  | serviceHost => String
  | servicePort => UInt16
  | packageConfig => Option Path
  | logFilter => String

/-- The value of a setting as it stands in a file. -/
def value : (k : Key) → Json.Reader k.Value
  | vmLibrary => return Path.mk (← Json.text "path string")
  | entryPoint => Json.text "a string"
  | startServiceIsolate => Json.boolean "a boolean"
  | serviceHost => Json.text "a string"
  | servicePort => Json.word16 "u16"
  | packageConfig => return (← Json.optional (Json.text "path string")).map Path.mk
  | logFilter => Json.text "a string"

def get : (k : Key) → Config → k.Value
  | vmLibrary, c => c.vmLibrary
  | entryPoint, c => c.entryPoint
  | startServiceIsolate, c => c.startServiceIsolate
  | serviceHost, c => c.serviceHost
  | servicePort, c => c.servicePort
  | packageConfig, c => c.packageConfig
  | logFilter, c => c.logFilter

def set : (k : Key) → k.Value → Config → Config
  | vmLibrary, v, c => { c with vmLibrary := v }
  | entryPoint, v, c => { c with entryPoint := v }
  | startServiceIsolate, v, c => { c with startServiceIsolate := v }
  | serviceHost, v, c => { c with serviceHost := v }
  | servicePort, v, c => { c with servicePort := v }
  | packageConfig, v, c => { c with packageConfig := v }
  | logFilter, v, c => { c with logFilter := v }

/-- What is made of a value in two steps is made of it in one. -/
theorem bind_map_pure {α β γ : Type} (x : Json.Reader α) (f : α → β) (g : β → γ) :
    (do return g (← (do return f (← x) : Json.Reader β)) : Json.Reader γ) =
      (do return g (f (← x))) := by
  simp

theorem read_eq (k : Key) (c : Config) : k.read c = (do return k.set (← k.value) c) := by
  cases k with
  | vmLibrary => exact (bind_map_pure (Json.text "path string") Path.mk
      fun path => { c with vmLibrary := path }).symm
  | packageConfig => exact (bind_map_pure (Json.optional (Json.text "path string"))
      (Option.map Path.mk) fun path => { c with packageConfig := path }).symm
  | entryPoint | startServiceIsolate | serviceHost | servicePort | logFilter => rfl

@[simp] theorem get_set (k : Key) (v : k.Value) (c : Config) : k.get (k.set v c) = v := by
  cases k <;> rfl

theorem get_set_of_ne {j k : Key} (other : j ≠ k) (v : k.Value) (c : Config) :
    j.get (k.set v c) = j.get c := by
  cases j <;> cases k <;> first | rfl | exact absurd rfl other

theorem mem_all (k : Key) : k ∈ all := by
  cases k <;> decide

theorem name_injective {j k : Key} (same : j.name = k.name) : j = k := by
  cases j <;> cases k <;> first | rfl | exact absurd same (by decide)

theorem ofName?_eq_some {s : String} {k : Key} : ofName? s = some k ↔ k.name = s := by
  have named {s : String} {j : Key} (found : ofName? s = some j) : j.name = s := by
    simpa using List.find?_some found
  constructor
  · exact named
  · rintro rfl
    cases found : ofName? k.name with
    | none => simpa using List.find?_eq_none.mp found k k.mem_all
    | some j => rw [name_injective (named found)]

/-- Settings are the same if each is. -/
theorem ext_get {c d : Config} (h : ∀ k : Key, k.get c = k.get d) : c = d := by
  obtain ⟨a₁, a₂, a₃, a₄, a₅, a₆, a₇⟩ := c
  obtain ⟨b₁, b₂, b₃, b₄, b₅, b₆, b₇⟩ := d
  obtain rfl : a₁ = b₁ := h vmLibrary
  obtain rfl : a₂ = b₂ := h entryPoint
  obtain rfl : a₃ = b₃ := h startServiceIsolate
  obtain rfl : a₄ = b₄ := h serviceHost
  obtain rfl : a₅ = b₅ := h servicePort
  obtain rfl : a₆ = b₆ := h packageConfig
  obtain rfl : a₇ = b₇ := h logFilter
  rfl

end Key

/-- One setting that is given. -/
abbrev Setting : Type := Σ k : Key, k.Value

/-- The keys of settings. -/
abbrev keys (l : List Setting) : List Key := l.map Sigma.fst

/-- The settings `c` with the given ones in their places. -/
def assign (l : List Setting) (c : Config) : Config := l.foldl (fun c g => g.1.set g.2 c) c

/-- The value that is given for a key. -/
def given? (l : List Setting) (k : Key) : Option k.Value :=
  match l with
  | [] => none
  | g :: rest => if same : g.1 = k then some (same ▸ g.2) else given? rest k

theorem given?_of_mem {l : List Setting} {k : Key} {v : k.Value} (distinct : (keys l).Nodup)
    (mem : ⟨k, v⟩ ∈ l) : given? l k = some v := by
  induction l with
  | nil => cases mem
  | cons g rest ih =>
    obtain ⟨fresh, distinct⟩ := List.nodup_cons.mp distinct
    rcases List.mem_cons.mp mem with rfl | later
    · simp [given?]
    · have other : g.1 ≠ k := by
        rintro rfl
        exact fresh (List.mem_map.mpr ⟨_, later, rfl⟩)
      rw [given?, dif_neg other]
      exact ih distinct later

theorem given?_of_notMem {l : List Setting} {k : Key} (absent : k ∉ keys l) :
    given? l k = none := by
  induction l with
  | nil => rfl
  | cons g rest ih =>
    have other : g.1 ≠ k := fun same => absent (same ▸ List.mem_cons_self)
    rw [given?, dif_neg other]
    exact ih fun later => absent (List.mem_cons_of_mem _ later)

theorem get_assign_of_notMem {l : List Setting} {k : Key} (absent : k ∉ keys l) (c : Config) :
    k.get (assign l c) = k.get c := by
  induction l generalizing c with
  | nil => rfl
  | cons g rest ih =>
    have other : k ≠ g.1 := fun same => absent (same ▸ List.mem_cons_self)
    change k.get (assign rest (g.1.set g.2 c)) = _
    rw [ih (fun later => absent (List.mem_cons_of_mem _ later)), Key.get_set_of_ne other]

/-- A setting that is given has the given value, and any other one keeps its own. -/
theorem get_assign {l : List Setting} (distinct : (keys l).Nodup) (k : Key) (c : Config) :
    k.get (assign l c) = (given? l k).getD (k.get c) := by
  induction l generalizing c with
  | nil => rfl
  | cons g rest ih =>
    obtain ⟨fresh, distinct⟩ := List.nodup_cons.mp distinct
    change k.get (assign rest (g.1.set g.2 c)) = _
    by_cases same : g.1 = k
    · obtain ⟨j, v⟩ := g
      obtain rfl : j = k := same
      rw [get_assign_of_notMem fresh, Key.get_set]
      simp [given?]
    · rw [ih distinct, Key.get_set_of_ne (Ne.symm same), given?, dif_neg same]

/-- The order in which settings are given does not matter. -/
theorem assign_perm {l l' : List Setting} (distinct : (keys l).Nodup) (same : l.Perm l')
    (c : Config) : assign l c = assign l' c := by
  have distinct' : (keys l').Nodup := (same.map Sigma.fst).nodup_iff.mp distinct
  apply Key.ext_get
  intro k
  rw [get_assign distinct, get_assign distinct']
  by_cases present : k ∈ keys l
  · obtain ⟨⟨j, v⟩, mem, rfl⟩ := List.mem_map.mp present
    rw [given?_of_mem distinct mem, given?_of_mem distinct' (same.mem_iff.mp mem)]
  · have absent : k ∉ keys l' := fun there =>
      present ((same.map Sigma.fst).mem_iff.mpr there)
    rw [given?_of_notMem present, given?_of_notMem absent]

/-! ### The file -/

/-- The members of an object from where the first or a later one may stand, up to its closing
brace. -/
inductive Members : Bool → List Setting → List UInt8 → List UInt8 → Prop
  | closed {first before after} (brace : Json.Stands '\x7d' before after) :
      Members first [] before after
  | member {first l before next body named valued after} {k : Key} {v : k.Value} {left}
      (separated : Json.Separated first before next) (quote : Json.Stands '"' next body)
      (name : Json.stringBody body = .ok (k.name, named)) (colon : Json.Stands ':' named valued)
      (value : k.value valued = .ok (v, left)) (rest : Members false l left after) :
      Members first (⟨k, v⟩ :: l) before after

/-- The items of an array, one for each key in turn, up to its closing bracket. -/
inductive Items : Bool → List Key → List Setting → List UInt8 → List UInt8 → Prop
  | closed {first ks before after} (bracket : Json.Stands ']' before after) :
      Items first ks [] before after
  | item {first ks l before next after} {k : Key} {v : k.Value} {left}
      (separated : Json.Separated first before next) (value : k.value next = .ok (v, left))
      (rest : Items false ks l left after) : Items first (k :: ks) (⟨k, v⟩ :: l) before after

/-- A text gives settings: by name, or in their order. -/
inductive Gives (text : String) : List Setting → Prop
  | object {l body left} (brace : Json.Stands '\x7b' (Utf8.encode text) body)
      (members : Members true l body left) (distinct : (keys l).Nodup)
      (finished : left.dropWhile Json.isBlank = []) : Gives text l
  | array {l body left} (bracket : Json.Stands '[' (Utf8.encode text) body)
      (items : Items true Key.all l body left)
      (finished : left.dropWhile Json.isBlank = []) : Gives text l

theorem Items.keys_prefix {first : Bool} {ks : List Key} {l : List Setting}
    {before after : List UInt8} (h : Items first ks l before after) : keys l <+: ks := by
  induction h with
  | closed => exact List.nil_prefix
  | item separated value rest ih => exact List.cons_prefix_cons.mpr ⟨rfl, ih⟩

theorem Gives.distinct {text : String} {l : List Setting} (h : Gives text l) :
    (keys l).Nodup := by
  cases h with
  | object brace members distinct => exact distinct
  | array bracket items => exact items.keys_prefix.sublist.nodup (by decide)

/-! ### What the reader makes of a text -/

theorem Key.read_eq_ok {k : Key} {c c' : Config} {before rest : List UInt8} :
    k.read c before = .ok (c', rest) ↔ ∃ v, k.value before = .ok (v, rest) ∧ c' = k.set v c := by
  rw [k.read_eq c, Json.bind_eq_ok]
  constructor
  · rintro ⟨v, left, read, h⟩
    obtain ⟨rfl, rfl⟩ := Json.pure_eq_ok.mp h
    exact ⟨v, read, rfl⟩
  · rintro ⟨v, read, rfl⟩
    exact ⟨v, rest, read, rfl⟩

/-- Each key is seen at most once, so never more are seen than there are. -/
theorem Key.length_le_of_nodup {seen : List Key} (distinct : seen.Nodup) :
    seen.length ≤ all.length :=
  (List.subperm_of_subset distinct fun k _ => k.mem_all).length_le

section
variable {limit : Nat} {seen : List Key} {c c' : Config} {before left after : List UInt8}

/-- What the reader accepts are members whose keys are distinct and new. -/
theorem members_of_read (distinct : seen.Nodup)
    (read : members limit seen c before = .ok (c', left))
    (close : Json.close '\x7d' left = .ok ((), after)) :
    ∃ l, Members seen.isEmpty l before after ∧ (keys l).Nodup ∧ (∀ k ∈ keys l, k ∉ seen) ∧
      c' = assign l c := by
  induction limit generalizing seen c before with
  | zero => cases read
  | succ limit ih =>
    unfold members at read
    obtain ⟨found, start, key, h⟩ := Json.bind_eq_ok.mp read
    cases found with
    | none =>
      obtain ⟨rfl, -⟩ := Json.nextKey?_eq_none.mp key
      obtain ⟨rfl, rfl⟩ := Json.pure_eq_ok.mp h
      have brace := Json.Stands.of_blank.mp (Json.close_eq_ok.mp close)
      exact ⟨[], .closed brace, List.nodup_nil, nofun, rfl⟩
    | some s =>
      obtain ⟨next, body, separated, quote, name⟩ := Json.nextKey?_eq_some.mp key
      cases known : Key.ofName? s with
      | none =>
        simp only [known] at h
        cases h
      | some k =>
        obtain rfl := Key.ofName?_eq_some.mp known
        simp only [known] at h
        split at h
        case isTrue => cases h
        case isFalse fresh =>
          obtain ⟨_, valued, colon, h⟩ := Json.bind_eq_ok.mp h
          obtain ⟨d, rest, taken, h⟩ := Json.bind_eq_ok.mp h
          obtain ⟨v, value, rfl⟩ := Key.read_eq_ok.mp taken
          obtain ⟨l, members, nodup, new, rfl⟩ := ih (List.nodup_cons.mpr ⟨fresh, distinct⟩) h
          refine ⟨⟨k, v⟩ :: l, ?_, ?_, ?_, rfl⟩
          · exact .member separated quote name (Json.colon_eq_ok.mp colon) value members
          · exact List.nodup_cons.mpr ⟨fun again => new k again List.mem_cons_self, nodup⟩
          · intro j mem seenBefore
            rcases List.mem_cons.mp mem with rfl | later
            · exact fresh seenBefore
            · exact new j later (List.mem_cons_of_mem _ seenBefore)

/-- Members whose keys are distinct and new are read, if as many are as there are keys. -/
theorem Members.read {l : List Setting} (distinct : seen.Nodup)
    (enough : Key.all.length < limit + seen.length) (h : Members seen.isEmpty l before after)
    (nodup : (keys l).Nodup) (new : ∀ k ∈ keys l, k ∉ seen) :
    ∃ left, members limit seen c before = .ok (assign l c, left) ∧
      Json.close '\x7d' left = .ok ((), after) := by
  induction limit generalizing seen c before l with
  | zero =>
    have few := Key.length_le_of_nodup distinct
    omega
  | succ limit ih =>
    unfold members
    simp only [Json.bind_eq_ok]
    cases h with
    | closed brace =>
      refine ⟨_, ⟨none, _, Json.nextKey?_eq_none.mpr ⟨rfl, _, brace⟩, rfl⟩, ?_⟩
      exact Json.close_eq_ok.mpr (Json.Stands.of_blank.mpr brace)
    | @member _ l _ next body named valued _ k v rest separated quote name colon value members =>
      obtain ⟨fresh, nodup⟩ := List.nodup_cons.mp nodup
      have unseen : k ∉ seen := new k List.mem_cons_self
      have others : ∀ j ∈ keys l, j ∉ k :: seen := by
        intro j mem again
        rcases List.mem_cons.mp again with rfl | seenBefore
        · exact fresh mem
        · exact new j (List.mem_cons_of_mem _ mem) seenBefore
      obtain ⟨left, h, close⟩ := ih (c := k.set v c) (List.nodup_cons.mpr ⟨unseen, distinct⟩)
        (by simpa using by omega) members nodup others
      refine ⟨left, ⟨some k.name, named,
        Json.nextKey?_eq_some.mpr ⟨next, body, separated, quote, name⟩, ?_⟩, close⟩
      simp only [Key.ofName?_eq_some.mpr rfl, if_neg unseen]
      refine Json.bind_eq_ok.mpr ⟨(), valued, Json.colon_eq_ok.mpr colon, ?_⟩
      exact Json.bind_eq_ok.mpr ⟨_, rest, Key.read_eq_ok.mpr ⟨v, value, rfl⟩, h⟩

/-- The reader accepts the members of an object whose keys are distinct and new. -/
theorem members_eq_ok (distinct : seen.Nodup) (enough : Key.all.length < limit + seen.length) :
    (∃ left, members limit seen c before = .ok (c', left) ∧
        Json.close '\x7d' left = .ok ((), after)) ↔
      ∃ l, Members seen.isEmpty l before after ∧ (keys l).Nodup ∧ (∀ k ∈ keys l, k ∉ seen) ∧
        c' = assign l c := by
  constructor
  · rintro ⟨left, read, close⟩
    exact members_of_read distinct read close
  · rintro ⟨l, h, nodup, new, rfl⟩
    exact h.read distinct enough nodup new

end

/-- A value may stand after blanks. -/
theorem Key.value_passesBlanks (k : Key) : Json.PassesBlanks k.value := by
  have text (expected : String) : Json.PassesBlanks (Json.text expected) :=
    Json.passesBlanks_valueStart.bind _
  cases k with
  | vmLibrary => exact (text _).bind _
  | entryPoint | serviceHost | logFilter => exact text _
  | startServiceIsolate | servicePort => exact Json.passesBlanks_valueStart.bind _
  | packageConfig => exact (Json.passesBlanks_peekToken?.bind _).bind _

/-- A value is no bracket. -/
theorem Key.value_stands {k : Key} {v : k.Value} {before rest : List UInt8}
    (read : k.value before = .ok (v, rest)) : ∃ c after, Json.Stands c before after ∧ c ≠ ']' := by
  cases k with
  | vmLibrary =>
    obtain ⟨s, left, read, -⟩ := Json.bind_eq_ok.mp read
    exact Json.stands_of_text read
  | entryPoint | serviceHost | logFilter => exact Json.stands_of_text read
  | startServiceIsolate => exact Json.stands_of_boolean read
  | servicePort => exact Json.stands_of_word16 read
  | packageConfig =>
    obtain ⟨s, left, read, -⟩ := Json.bind_eq_ok.mp read
    exact Json.stands_of_optional read

/-- The reader accepts the items of an array, no more of them than there are keys. -/
theorem items_eq_ok {first : Bool} {ks : List Key} {c c' : Config} {before after : List UInt8} :
    (∃ left, items first c ks before = .ok (c', left) ∧ Json.close ']' left = .ok ((), after)) ↔
      ∃ l, Items first ks l before after ∧ c' = assign l c := by
  induction ks generalizing first c before with
  | nil =>
    constructor
    · rintro ⟨left, h, close⟩
      obtain ⟨rfl, rfl⟩ := Json.pure_eq_ok.mp h
      exact ⟨[], .closed (Json.close_eq_ok.mp close), rfl⟩
    · rintro ⟨l, items, rfl⟩
      cases items with
      | closed bracket => exact ⟨before, rfl, Json.close_eq_ok.mpr bracket⟩
  | cons k ks ih =>
    unfold items
    simp only [Json.bind_eq_ok]
    constructor
    · rintro ⟨left, ⟨more, start, found, h⟩, close⟩
      rcases Json.nextItem?_eq_ok.mp found with ⟨rfl, rfl, -⟩ |
        ⟨rfl, next, d, after', separated, -, -, rfl⟩
      · obtain ⟨rfl, rfl⟩ := Json.pure_eq_ok.mp h
        exact ⟨[], .closed (Json.Stands.of_blank.mp (Json.close_eq_ok.mp close)), rfl⟩
      · obtain ⟨e, rest, read, h⟩ := Json.bind_eq_ok.mp h
        obtain ⟨v, value, rfl⟩ := Key.read_eq_ok.mp read
        rw [k.value_passesBlanks] at value
        obtain ⟨l, items, rfl⟩ := ih.mp ⟨left, h, close⟩
        exact ⟨⟨k, v⟩ :: l, .item separated value items, rfl⟩
    · rintro ⟨l, items, rfl⟩
      cases items with
      | closed bracket =>
        refine ⟨_, ⟨false, _, Json.nextItem?_eq_ok.mpr (.inl ⟨rfl, rfl, _, bracket⟩), rfl⟩, ?_⟩
        exact Json.close_eq_ok.mpr (Json.Stands.of_blank.mpr bracket)
      | @item _ _ l _ next _ _ v rest separated value items =>
        obtain ⟨d, after', stands, other⟩ := Key.value_stands value
        obtain ⟨left, h, close⟩ := (ih (c := k.set v c)).mpr ⟨l, items, rfl⟩
        refine ⟨left, ⟨true, _, Json.nextItem?_eq_ok.mpr
          (.inr ⟨rfl, next, d, after', separated, stands, other, rfl⟩), ?_⟩, close⟩
        refine Json.bind_eq_ok.mpr ⟨k.set v c, rest, Key.read_eq_ok.mpr ⟨v, ?_, rfl⟩, h⟩
        rw [k.value_passesBlanks]
        exact value

/-- A text is accepted if it gives settings, and then the defaults with these in their places are
read. -/
theorem parse_reader_eq_ok {text : String} {c : Config} :
    Json.parse reader text = .ok c ↔ ∃ l, Gives text l ∧ c = assign l {} := by
  rw [Json.parse_eq_ok]
  unfold reader
  constructor
  · rintro ⟨after, h, finished⟩
    obtain ⟨d, start, started, h⟩ := Json.bind_eq_ok.mp h
    obtain ⟨rfl, body, stands⟩ := Json.valueStart_eq_ok.mp started
    split at h
    · obtain ⟨left, h, close⟩ := Json.enclosed_eq_ok.mp h
      rw [stands.head.2] at h
      obtain ⟨l, given, distinct, -, rfl⟩ :=
        (members_eq_ok List.nodup_nil (by simp)).mp ⟨left, h, close⟩
      exact ⟨l, .object stands given distinct finished, rfl⟩
    · obtain ⟨left, h, close⟩ := Json.enclosed_eq_ok.mp h
      rw [stands.head.2] at h
      obtain ⟨l, given, rfl⟩ := items_eq_ok.mp ⟨left, h, close⟩
      exact ⟨l, .array stands given finished, rfl⟩
    · exact (Json.fails_refuse _ _ _ _ h).elim
  · rintro ⟨l, gives, rfl⟩
    cases gives with
    | @object body after brace given distinct finished =>
      refine ⟨after, Json.bind_eq_ok.mpr
        ⟨_, _, Json.valueStart_eq_ok.mpr ⟨rfl, _, brace⟩, Json.enclosed_eq_ok.mpr ?_⟩, finished⟩
      rw [brace.head.2]
      exact (members_eq_ok List.nodup_nil (by simp)).mpr ⟨l, given, distinct, nofun, rfl⟩
    | @array body after bracket given finished =>
      refine ⟨after, Json.bind_eq_ok.mpr
        ⟨_, _, Json.valueStart_eq_ok.mpr ⟨rfl, _, bracket⟩, Json.enclosed_eq_ok.mpr ?_⟩, finished⟩
      rw [bracket.head.2]
      exact items_eq_ok.mpr ⟨l, given, rfl⟩

end Config
end HostBridge
