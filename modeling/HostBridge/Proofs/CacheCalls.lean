import HostBridge.MemberCache
import Mathlib.Data.Finset.Card
import Mathlib.Data.List.DropRight

/-!
Calls of the cache within calls. A resolver may make any calls before it returns, on its own key
too, and it may clear the cache. All calls of a run are taken in the order in which they end; of a
cache nothing but that order is seen: its entries are the first successes since the last clear.
-/
namespace HostBridge
namespace MemberCache

variable {γ μ ε : Type}

/-! ### Entries -/

/-- What a cache has entries for. -/
inductive EntryKey where
  | type (name : String)
  | member (key : MemberKey)
  deriving DecidableEq

/-- The entry of a key: the token of a type or that of a member. -/
def stored? (c : MemberCache γ μ) : EntryKey → Option (γ ⊕ μ)
  | .type name => (c.type? name).map .inl
  | .member key => (c.member? key).map .inr

/-- From `c` to `d`, the key got an entry unless it had one, and `kept` is its token now. -/
structure Enters (c : MemberCache γ μ) (key : EntryKey) (kept : γ ⊕ μ) (d : MemberCache γ μ) :
    Prop where
  there : d.stored? key = some kept
  earlier : ∀ old, c.stored? key = some old → kept = old
  others : ∀ other, other ≠ key → d.stored? other = c.stored? other
  size : d.size = if (c.stored? key).isSome then c.size else c.size + 1

theorem enters_there {c : MemberCache γ μ} {key : EntryKey} {token : γ ⊕ μ}
    (there : c.stored? key = some token) : c.Enters key token c where
  there := there
  earlier old found := by rw [there] at found; cases found; rfl
  others _ _ := rfl
  size := by rw [there]; rfl

theorem addType_enters (c : MemberCache γ μ) (name : String) (token : γ) :
    c.Enters (.type name) (.inl (c.addType name token).1) (c.addType name token).2.2 ∧
      (c.addType name token).2.2.resolutions = c.resolutions + 1 := by
  refine ⟨?_, c.resolutions_addType name token⟩
  cases there : c.type? name with
  | some old =>
    have entry : c.stored? (.type name) = some (.inl old) := by simp [stored?, there]
    have same := enters_there entry
    rw [addType_of_some there]
    exact ⟨same.there, same.earlier, same.others, same.size⟩
  | none =>
    have missing : c.stored? (.type name) = none := by simp [stored?, there]
    refine ⟨by simp [stored?], by simp [missing], fun other ne => ?_, ?_⟩
    · cases other with
      | type n =>
        have distinct : n ≠ name := fun same => ne (congrArg EntryKey.type same)
        simp [stored?, distinct]
      | member key => simp [stored?]
    · rw [missing, addType_of_none there]
      simp only [size, List.length_cons, Option.isSome_none, Bool.false_eq_true, if_false]
      omega

theorem addMember_enters (c : MemberCache γ μ) (key : MemberKey) (token : μ) :
    c.Enters (.member key) (.inr (c.addMember key token).1) (c.addMember key token).2 ∧
      (c.addMember key token).2.resolutions = c.resolutions + 1 := by
  refine ⟨?_, c.resolutions_addMember key token⟩
  cases there : c.member? key with
  | some old =>
    have entry : c.stored? (.member key) = some (.inr old) := by simp [stored?, there]
    have same := enters_there entry
    rw [addMember_of_some there]
    exact ⟨same.there, same.earlier, same.others, same.size⟩
  | none =>
    have missing : c.stored? (.member key) = none := by simp [stored?, there]
    refine ⟨by simp [stored?], by simp [missing], fun other ne => ?_, ?_⟩
    · cases other with
      | type name => simp [stored?]
      | member k =>
        have distinct : k ≠ key := fun same => ne (congrArg EntryKey.member same)
        simp [stored?, distinct]
    · rw [missing, addMember_of_none there]
      simp only [size, List.length_cons, Option.isSome_none, Bool.false_eq_true, if_false]
      omega

@[simp] theorem stored?_clear (c : MemberCache γ μ) (key : EntryKey) :
    c.clear.stored? key = none := by
  cases key <;> rfl

/-! ### The calls of a run -/

namespace Call

def isClear : Call γ μ ε → Bool
  | .clear => true
  | .type _ _ _ | .member _ _ _ | .size => false

/-- The key that a call is for. -/
def key? : Call γ μ ε → Option EntryKey
  | .type name _ _ => some (.type name)
  | .member key _ _ => some (.member key)
  | .clear | .size => none

/-- The calls that the resolver makes. -/
def first : Call γ μ ε → List (Call γ μ ε)
  | .type _ first _ | .member _ first _ => first
  | .clear | .size => []

/-- What the resolver gives. -/
def result? : Call γ μ ε → Option (Except ε (γ ⊕ μ))
  | .type _ _ result => some (result.map .inl)
  | .member _ _ result => some (result.map .inr)
  | .clear | .size => none

end Call

namespace Answer

/-- What a call for a key gives. -/
def result? : Answer γ μ ε → Option (Except ε (γ ⊕ μ))
  | .type result _ => some (result.map .inl)
  | .member result _ => some (result.map .inr)
  | .cleared _ | .size _ _ => none

/-- Whether the resolver ran. -/
def ran : Answer γ μ ε → Bool
  | .type _ ran | .member _ ran => ran.isSome
  | .cleared _ | .size _ _ => false

end Answer

/-- A call in the course of a run, with the cache that it found when it began. -/
structure Visit (γ μ ε : Type) where
  call : Call γ μ ε
  start : MemberCache γ μ

mutual

/-- All calls made in one call, in the order in which they end: those of its resolver, if that runs,
and then the call itself. -/
def Call.visits (c : MemberCache γ μ) : Call γ μ ε → List (Visit γ μ ε)
  | .type name first result =>
    match c.type? name with
    | some _ => [⟨.type name first result, c⟩]
    | none => Call.visitsAll c first ++ [⟨.type name first result, c⟩]
  | .member key first result =>
    match c.member? key with
    | some _ => [⟨.member key first result, c⟩]
    | none => Call.visitsAll c first ++ [⟨.member key first result, c⟩]
  | .clear => [⟨.clear, c⟩]
  | .size => [⟨.size, c⟩]

/-- All calls made in calls one after another. -/
def Call.visitsAll (c : MemberCache γ μ) : List (Call γ μ ε) → List (Visit γ μ ε)
  | [] => []
  | call :: rest => call.visits c ++ Call.visitsAll (call.run c).2 rest

end

mutual

/-- An answer after all answers that its resolver got. -/
def Answer.each : Answer γ μ ε → List (Answer γ μ ε)
  | .type result ran =>
    match ran with
    | none => [.type result none]
    | some own => Answer.eachOf own ++ [.type result (some own)]
  | .member result ran =>
    match ran with
    | none => [.member result none]
    | some own => Answer.eachOf own ++ [.member result (some own)]
  | .cleared n => [.cleared n]
  | .size n m => [.size n m]

def Answer.eachOf : List (Answer γ μ ε) → List (Answer γ μ ε)
  | [] => []
  | answer :: rest => answer.each ++ Answer.eachOf rest

end

namespace Visit

def answer (v : Visit γ μ ε) : Answer γ μ ε := (v.call.run v.start).1

/-- The cache when the call ends. -/
def final (v : Visit γ μ ε) : MemberCache γ μ := (v.call.run v.start).2

/-- The calls that its own resolver made. -/
def own (v : Visit γ μ ε) : List (Visit γ μ ε) :=
  if v.answer.ran then Call.visitsAll v.start v.call.first else []

/-- The cache that its own resolver left. -/
def left (v : Visit γ μ ε) : MemberCache γ μ :=
  if v.answer.ran then (Call.runAll v.start v.call.first).2 else v.start

/-- The key and the token, if the call is for a key and succeeds. -/
def given? (v : Visit γ μ ε) : Option (EntryKey × (γ ⊕ μ)) :=
  match v.call.key?, v.answer.result? with
  | some key, some (.ok token) => some (key, token)
  | _, _ => none

/-- Whether a resolver ran and succeeded. -/
def resolved (v : Visit γ μ ε) : Bool :=
  v.answer.ran && match v.call.result? with
    | some (.ok _) => true
    | _ => false

/-- What a call can do. -/
inductive Course (v : Visit γ μ ε) : Prop where
  | hit {key : EntryKey} {token : γ ⊕ μ} (called : v.call.key? = some key)
      (there : v.start.stored? key = some token) (ran : v.answer.ran = false)
      (gave : v.answer.result? = some (.ok token)) (left : v.left = v.start)
      (final : v.final = v.start)
  | failed {key : EntryKey} {e : ε} (called : v.call.key? = some key)
      (missing : v.start.stored? key = none) (result : v.call.result? = some (.error e))
      (ran : v.answer.ran = true) (gave : v.answer.result? = some (.error e))
      (final : v.final = v.left)
  | entered {key : EntryKey} {token kept : γ ⊕ μ} (called : v.call.key? = some key)
      (missing : v.start.stored? key = none) (result : v.call.result? = some (.ok token))
      (ran : v.answer.ran = true) (gave : v.answer.result? = some (.ok kept))
      (enters : v.left.Enters key kept v.final)
      (counted : v.final.resolutions = v.left.resolutions + 1)
  | cleared (call : v.call = .clear) (answer : v.answer = .cleared v.left.size)
      (final : v.final = v.left.clear)
  | measured (call : v.call = .size) (answer : v.answer = .size v.left.size v.left.resolutions)
      (final : v.final = v.left)

section

variable {v : Visit γ μ ε} {key : EntryKey} {a : Answer γ μ ε}

theorem Course.of_there {token : γ ⊕ μ} (called : v.call.key? = some key)
    (there : v.start.stored? key = some token) (run : v.call.run v.start = (a, v.start))
    (ran : a.ran = false) (gave : a.result? = some (.ok token)) : v.Course := by
  have answer : v.answer = a := congrArg Prod.fst run
  rw [← answer] at ran gave
  refine .hit called there ran gave ?_ (congrArg Prod.snd run)
  simp [left, ran]

theorem Course.of_failed {e : ε} (called : v.call.key? = some key)
    (missing : v.start.stored? key = none) (result : v.call.result? = some (.error e))
    (run : v.call.run v.start = (a, (Call.runAll v.start v.call.first).2)) (ran : a.ran = true)
    (gave : a.result? = some (.error e)) : v.Course := by
  have answer : v.answer = a := congrArg Prod.fst run
  rw [← answer] at ran gave
  refine .failed called missing result ran gave ((congrArg Prod.snd run).trans ?_)
  simp [left, ran]

theorem Course.of_entered {token kept : γ ⊕ μ} {d : MemberCache γ μ}
    (called : v.call.key? = some key) (missing : v.start.stored? key = none)
    (result : v.call.result? = some (.ok token)) (run : v.call.run v.start = (a, d))
    (ran : a.ran = true) (gave : a.result? = some (.ok kept))
    (enters : (Call.runAll v.start v.call.first).2.Enters key kept d ∧
      d.resolutions = (Call.runAll v.start v.call.first).2.resolutions + 1) : v.Course := by
  have answer : v.answer = a := congrArg Prod.fst run
  have final : v.final = d := congrArg Prod.snd run
  rw [← answer] at ran gave
  have left : v.left = (Call.runAll v.start v.call.first).2 := by simp [Visit.left, ran]
  rw [← left, ← final] at enters
  exact .entered called missing result ran gave enters.1 enters.2

end

theorem course (v : Visit γ μ ε) : v.Course := by
  obtain ⟨call, c⟩ := v
  cases call with
  | type name first result =>
    cases there : c.type? name with
    | some token =>
      have run : (Call.type name first result).run c = (.type (.ok token) none, c) := by
        simp only [Call.run, there]
      have entry : c.stored? (.type name) = some (.inl token) := by simp [stored?, there]
      exact .of_there rfl entry run rfl rfl
    | none =>
      have missing : c.stored? (.type name) = none := by simp [stored?, there]
      cases result with
      | error e =>
        have run : (Call.type name first (.error e)).run c =
            (.type (.error e) (some (Call.runAll c first).1), (Call.runAll c first).2) := by
          simp only [Call.run, there]
        exact .of_failed rfl missing rfl run rfl rfl
      | ok token =>
        have run : (Call.type name first (.ok token)).run c =
            (.type (.ok ((Call.runAll c first).2.addType name token).1)
              (some (Call.runAll c first).1),
              ((Call.runAll c first).2.addType name token).2.2) := by
          simp only [Call.run, there]
        exact .of_entered rfl missing rfl run rfl rfl (addType_enters _ name token)
  | member key first result =>
    cases there : c.member? key with
    | some token =>
      have run : (Call.member key first result).run c = (.member (.ok token) none, c) := by
        simp only [Call.run, there]
      have entry : c.stored? (.member key) = some (.inr token) := by simp [stored?, there]
      exact .of_there rfl entry run rfl rfl
    | none =>
      have missing : c.stored? (.member key) = none := by simp [stored?, there]
      cases result with
      | error e =>
        have run : (Call.member key first (.error e)).run c =
            (.member (.error e) (some (Call.runAll c first).1), (Call.runAll c first).2) := by
          simp only [Call.run, there]
        exact .of_failed rfl missing rfl run rfl rfl
      | ok token =>
        have run : (Call.member key first (.ok token)).run c =
            (.member (.ok ((Call.runAll c first).2.addMember key token).1)
              (some (Call.runAll c first).1),
              ((Call.runAll c first).2.addMember key token).2) := by
          simp only [Call.run, there]
        exact .of_entered rfl missing rfl run rfl rfl (addMember_enters _ key token)
  | clear => exact .cleared rfl rfl rfl
  | size => exact .measured rfl rfl rfl

end Visit

/-! ### The order in which calls end -/

/-- The second cache is what the calls of the list, one after another, make of the first. -/
inductive Timeline : MemberCache γ μ → List (Visit γ μ ε) → MemberCache γ μ → Prop where
  | nil (c : MemberCache γ μ) : Timeline c [] c
  | cons {c d : MemberCache γ μ} {v : Visit γ μ ε} {rest : List (Visit γ μ ε)} (left : v.left = c)
      (later : Timeline v.final rest d) : Timeline c (v :: rest) d

namespace Timeline

variable {c d e : MemberCache γ μ} {vs ws : List (Visit γ μ ε)} {v : Visit γ μ ε}

theorem append (h : Timeline c vs d) (h' : Timeline d ws e) : Timeline c (vs ++ ws) e := by
  induction h with
  | nil c => exact h'
  | cons left later ih => exact .cons left (ih h')

theorem split (h : Timeline c (vs ++ ws) e) : ∃ d, Timeline c vs d ∧ Timeline d ws e := by
  induction vs generalizing c with
  | nil => exact ⟨c, .nil c, h⟩
  | cons v vs ih =>
    cases h with
    | cons left later =>
      obtain ⟨d, first, second⟩ := ih later
      exact ⟨d, .cons left first, second⟩

/-- A call of the list stands between those before and those after it. -/
theorem at_call (h : Timeline c (vs ++ v :: ws) e) :
    Timeline c vs v.left ∧ Timeline v.final ws e := by
  obtain ⟨d, before, here⟩ := h.split
  cases here with
  | cons left later =>
    rw [left]
    exact ⟨before, later⟩

end Timeline

/-- A run from `c` to `d`. Every call began after some calls of the run, and between then and its
end there are the calls of its own resolver. -/
structure Follows (c : MemberCache γ μ) (vs : List (Visit γ μ ε)) (d : MemberCache γ μ) : Prop where
  timeline : Timeline c vs d
  began : ∀ before v after, vs = before ++ v :: after →
    ∃ earlier, before = earlier ++ v.own ∧ Timeline c earlier v.start

namespace Follows

variable {c d e : MemberCache γ μ} {vs ws : List (Visit γ μ ε)}

theorem nil (c : MemberCache γ μ) : Follows c ([] : List (Visit γ μ ε)) c where
  timeline := .nil c
  began before v after split := by simp at split

theorem append (h : Follows c vs d) (h' : Follows d ws e) : Follows c (vs ++ ws) e := by
  refine ⟨h.timeline.append h'.timeline, fun before v after split => ?_⟩
  have second : ∀ front, before = vs ++ front → ws = front ++ v :: after →
      ∃ earlier, before = earlier ++ v.own ∧ Timeline c earlier v.start := by
    rintro front rfl others
    obtain ⟨earlier, rfl, began⟩ := h'.began front v after others
    exact ⟨vs ++ earlier, by rw [List.append_assoc], h.timeline.append began⟩
  rcases List.append_eq_append_iff.mp split with ⟨front, first, others⟩ | ⟨back, first, others⟩
  · exact second front first others
  · cases back with
    | nil => exact second [] (by simpa using first.symm) others.symm
    | cons u back =>
      obtain ⟨rfl, rest⟩ := List.cons.inj others
      exact h.began before v back first

/-- A call ends after the calls of its own resolver. -/
theorem ended {v : Visit γ μ ε} (h : Follows v.start v.own v.left) :
    Follows v.start (v.own ++ [v]) v.final := by
  refine ⟨h.timeline.append (.cons rfl (.nil _)), fun before w after split => ?_⟩
  rcases List.append_eq_append_iff.mp split with ⟨front, first, others⟩ | ⟨back, first, others⟩
  · cases front with
    | nil =>
      obtain ⟨rfl, -⟩ := List.cons.inj others
      exact ⟨[], by simpa using first, .nil _⟩
    | cons u front => simp at others
  · cases back with
    | nil =>
      obtain ⟨rfl, -⟩ := List.cons.inj others
      exact ⟨[], by simpa using first.symm, .nil _⟩
    | cons u back =>
      obtain ⟨rfl, -⟩ := List.cons.inj others
      exact h.began before w back first

end Follows

namespace Visit

theorem visits_eq (v : Visit γ μ ε) : v.call.visits v.start = v.own ++ [v] := by
  obtain ⟨call, c⟩ := v
  cases call with
  | type name first result =>
    cases there : c.type? name <;> cases result <;>
      simp [own, answer, Call.visits, Call.run, Call.first, Answer.ran, there]
  | member key first result =>
    cases there : c.member? key <;> cases result <;>
      simp [own, answer, Call.visits, Call.run, Call.first, Answer.ran, there]
  | clear => rfl
  | size => rfl

theorem own_follows (v : Visit γ μ ε)
    (first : ∀ c, Follows c (Call.visitsAll c v.call.first) (Call.runAll c v.call.first).2) :
    Follows v.start v.own v.left := by
  unfold own left
  split
  · exact first _
  · exact .nil _

end Visit

mutual

theorem Call.visits_follows (c : MemberCache γ μ) :
    (call : Call γ μ ε) → Follows c (call.visits c) (call.run c).2
  | .type name first result => by
    rw [Visit.visits_eq ⟨.type name first result, c⟩]
    exact (Visit.own_follows ⟨.type name first result, c⟩ fun d =>
      Call.visitsAll_follows d first).ended
  | .member key first result => by
    rw [Visit.visits_eq ⟨.member key first result, c⟩]
    exact (Visit.own_follows ⟨.member key first result, c⟩ fun d =>
      Call.visitsAll_follows d first).ended
  | .clear => (Visit.own_follows ⟨.clear, c⟩ .nil).ended
  | .size => (Visit.own_follows ⟨.size, c⟩ .nil).ended

theorem Call.visitsAll_follows (c : MemberCache γ μ) :
    (calls : List (Call γ μ ε)) → Follows c (Call.visitsAll c calls) (Call.runAll c calls).2
  | [] => .nil c
  | call :: rest => by
    rw [Call.visitsAll, Call.runAll]
    exact (Call.visits_follows c call).append (Call.visitsAll_follows _ rest)

end

mutual

theorem Call.visits_answer (c : MemberCache γ μ) :
    (call : Call γ μ ε) → (call.visits c).map Visit.answer = (call.run c).1.each
  | .type name first result => by
    have own := Call.visitsAll_answer c first
    cases there : c.type? name <;> cases result <;>
      simp [Call.visits, Call.run, there, Answer.each, Visit.answer, own]
  | .member key first result => by
    have own := Call.visitsAll_answer c first
    cases there : c.member? key <;> cases result <;>
      simp [Call.visits, Call.run, there, Answer.each, Visit.answer, own]
  | .clear => rfl
  | .size => rfl

theorem Call.visitsAll_answer (c : MemberCache γ μ) : (calls : List (Call γ μ ε)) →
    (Call.visitsAll c calls).map Visit.answer = Answer.eachOf (Call.runAll c calls).1
  | [] => rfl
  | call :: rest => by
    rw [Call.visitsAll, List.map_append, Call.visits_answer, Call.visitsAll_answer, Call.runAll,
      Answer.eachOf]

end

/-! ### What the order tells of a cache -/

/-- The calls that ended after the last clear. -/
def sinceClear (vs : List (Visit γ μ ε)) : List (Visit γ μ ε) :=
  vs.rtakeWhile fun v => !v.call.isClear

/-- What calls have given since the last clear, the first one first. -/
def successes (vs : List (Visit γ μ ε)) : List (EntryKey × (γ ⊕ μ)) :=
  (sinceClear vs).filterMap Visit.given?

/-- How many keys have been given since the last clear. -/
def keysGiven (vs : List (Visit γ μ ε)) : Nat :=
  ((successes vs).map Prod.fst).toFinset.card

/-- What a cache is after calls that ended in this order: the token of a key is what was given for
it first since the last clear, and the count is that of the resolvers that ran and succeeded. -/
structure Reflects (c : MemberCache γ μ) (vs : List (Visit γ μ ε)) : Prop where
  entry : ∀ key, c.stored? key = (successes vs).lookup key
  size : c.size = keysGiven vs
  resolutions : c.resolutions = vs.countP Visit.resolved

theorem successes_clear {v : Visit γ μ ε} (vs : List (Visit γ μ ε)) (clears : v.call = .clear) :
    successes (vs ++ [v]) = [] := by
  have stopped : sinceClear (vs ++ [v]) = [] := by
    apply List.rtakeWhile_concat_neg
    simp [clears, Call.isClear]
  rw [successes, stopped, List.filterMap_nil]

/-- What a call that is no clear gave is noted last. -/
theorem successes_append {v : Visit γ μ ε} {given : Option (EntryKey × (γ ⊕ μ))}
    (vs : List (Visit γ μ ε)) (other : v.call.isClear = false) (gave : v.given? = given) :
    successes (vs ++ [v]) = successes vs ++ given.toList := by
  have goes : sinceClear (vs ++ [v]) = sinceClear vs ++ [v] := by
    apply List.rtakeWhile_concat_pos
    simp [other]
  subst gave
  rw [successes, goes, List.filterMap_append]
  cases given : v.given? <;> simp [given, successes]

/-- A key is missing among pairs exactly if nothing is looked up for it. -/
theorem lookup_isSome_iff {κ ν : Type} [DecidableEq κ] {l : List (κ × ν)} {key : κ} :
    (l.lookup key).isSome ↔ key ∈ l.map Prod.fst := by
  induction l with
  | nil => simp
  | cons p l ih =>
    rw [List.lookup_cons, List.map_cons, List.mem_cons]
    by_cases same : key = p.1
    · simp [same]
    · have distinct : (key == p.1) = false := by simpa using same
      rw [distinct, ih]
      simp [same]

theorem Reflects.of_successes {c : MemberCache γ μ} {vs : List (Visit γ μ ε)}
    {l : List (EntryKey × (γ ⊕ μ))} (noted : successes vs = l)
    (entry : ∀ key, c.stored? key = l.lookup key)
    (size : c.size = (l.map Prod.fst).toFinset.card)
    (resolutions : c.resolutions = vs.countP Visit.resolved) : Reflects c vs := by
  subst noted
  exact ⟨entry, size, resolutions⟩

/-- A success that is noted last. -/
theorem Enters.noted {c d : MemberCache γ μ} {key : EntryKey} {kept : γ ⊕ μ}
    {l : List (EntryKey × (γ ⊕ μ))} (enters : c.Enters key kept d)
    (entry : ∀ k, c.stored? k = l.lookup k) (size : c.size = (l.map Prod.fst).toFinset.card) :
    (∀ k, d.stored? k = (l ++ [(key, kept)]).lookup k) ∧
      d.size = ((l ++ [(key, kept)]).map Prod.fst).toFinset.card := by
  constructor
  · intro k
    rw [List.lookup_append]
    by_cases same : k = key
    · subst same
      rw [enters.there, ← entry]
      cases before : c.stored? k with
      | none => simp
      | some old => simp [enters.earlier old before]
    · have distinct : (k == key) = false := by simpa using same
      rw [enters.others k same, entry]
      simp [List.lookup_cons, distinct]
  · have grown : ((l ++ [(key, kept)]).map Prod.fst).toFinset =
        insert key (l.map Prod.fst).toFinset := by
      ext k
      simp
    rw [grown, enters.size, size, entry]
    by_cases there : key ∈ l.map Prod.fst
    · rw [if_pos (lookup_isSome_iff.mpr there),
        Finset.insert_eq_of_mem (List.mem_toFinset.mpr there)]
    · rw [if_neg fun some => there (lookup_isSome_iff.mp some),
        Finset.card_insert_of_notMem fun mem => there (List.mem_toFinset.mp mem)]

namespace Visit

variable {v : Visit γ μ ε} {vs : List (Visit γ μ ε)}

theorem isClear_of_key? {key : EntryKey} (called : v.call.key? = some key) :
    v.call.isClear = false := by
  cases same : v.call <;> simp_all [Call.key?, Call.isClear]

/-- The end of a call adds to what the order tells. -/
theorem Course.reflects (h : Reflects v.left vs) (course : v.Course) :
    Reflects v.final (vs ++ [v]) := by
  cases course with
  | hit called there ran gave left final =>
    rename_i key token
    have given : v.given? = some (key, token) := by simp [given?, called, gave]
    have noted := successes_append vs (isClear_of_key? called) given
    rw [← left] at there
    obtain ⟨entry, size⟩ := (enters_there there).noted h.entry h.size
    rw [final.trans left.symm]
    refine .of_successes noted entry size ?_
    rw [List.countP_append, h.resolutions]
    simp [resolved, ran]
  | failed called missing result ran gave final =>
    have given : v.given? = none := by simp [given?, called, gave]
    have noted := successes_append vs (isClear_of_key? called) given
    rw [Option.toList_none, List.append_nil] at noted
    rw [final]
    refine .of_successes noted h.entry h.size ?_
    rw [List.countP_append, h.resolutions]
    simp [resolved, result]
  | entered called missing result ran gave enters counted =>
    rename_i key token kept
    have given : v.given? = some (key, kept) := by simp [given?, called, gave]
    have noted := successes_append vs (isClear_of_key? called) given
    obtain ⟨entry, size⟩ := enters.noted h.entry h.size
    refine .of_successes noted entry size ?_
    rw [counted, List.countP_append, h.resolutions]
    simp [resolved, result, ran]
  | cleared call answer final =>
    rw [final]
    refine .of_successes (successes_clear vs call) (stored?_clear _) rfl ?_
    rw [List.countP_append]
    simp [resolved, call, Call.result?, clear, h.resolutions]
  | measured call answer final =>
    have given : v.given? = none := by simp [given?, call, Call.key?]
    have noted := successes_append vs (by rw [call]; rfl) given
    rw [Option.toList_none, List.append_nil] at noted
    rw [final]
    refine .of_successes noted h.entry h.size ?_
    rw [List.countP_append, h.resolutions]
    simp [resolved, call, Call.result?]

end Visit

theorem Timeline.reflects {c d : MemberCache γ μ} {past vs : List (Visit γ μ ε)}
    (h : Timeline c vs d) (before : Reflects c past) : Reflects d (past ++ vs) := by
  induction h generalizing past with
  | nil c => rwa [List.append_nil]
  | cons left later ih =>
    rename_i v rest
    rw [← left] at before
    have after := ih (v.course.reflects before)
    rwa [List.append_assoc, List.singleton_append] at after

theorem reflects_nil : Reflects ({} : MemberCache γ μ) ([] : List (Visit γ μ ε)) where
  entry key := by cases key <;> rfl
  size := rfl
  resolutions := rfl

/-! ### Entries that stay -/

/-- A call that is no clear leaves every entry. -/
theorem Visit.Course.keeps {v : Visit γ μ ε} {key : EntryKey} {token : γ ⊕ μ} (course : v.Course)
    (other : v.call.isClear = false) (there : v.left.stored? key = some token) :
    v.final.stored? key = some token := by
  cases course with
  | hit called found ran gave left final => rwa [final, ← left]
  | failed called missing result ran gave final => rwa [final]
  | entered called missing result ran gave enters counted =>
    rename_i own result kept
    by_cases same : key = own
    · subst same
      rw [enters.there, enters.earlier token there]
    · rwa [enters.others key same]
  | cleared call answer final =>
    rw [call] at other
    cases other
  | measured call answer final => rwa [final]

theorem Timeline.keeps {c d : MemberCache γ μ} {vs : List (Visit γ μ ε)} {key : EntryKey}
    {token : γ ⊕ μ} (h : Timeline c vs d) (uncleared : ∀ v ∈ vs, v.call.isClear = false)
    (there : c.stored? key = some token) : d.stored? key = some token := by
  induction h with
  | nil c => exact there
  | cons left later ih =>
    rename_i v rest
    rw [← left] at there
    apply ih fun u mem => uncleared u (List.mem_cons_of_mem _ mem)
    exact v.course.keeps (uncleared v List.mem_cons_self) there

namespace Visit

/-- What holds of a call that ended after the calls in `before`. -/
structure Account (before : List (Visit γ μ ε)) (v : Visit γ μ ε) : Prop where
  /-- It began after some of them, with the cache that they had made. -/
  began : ∃ earlier, before = earlier ++ v.own ∧ Reflects v.start earlier
  left : Reflects v.left before
  final : Reflects v.final (before ++ [v])
  ran : ∀ key, v.call.key? = some key → (v.answer.ran = true ↔ v.start.stored? key = none)
  given : ∀ key token, v.given? = some (key, token) → v.final.stored? key = some token
  failed : ∀ e, v.answer.ran = true → v.call.result? = some (.error e) →
    v.answer.result? = some (.error e) ∧ v.final = v.left
  cleared : v.call = .clear → v.answer = .cleared (keysGiven before)
  measured : v.call = .size →
    v.answer = .size (keysGiven before) (before.countP Visit.resolved)

/-- What holds of two calls with no clear in between. -/
structure Agrees (v w : Visit γ μ ε) : Prop where
  stays : ∀ key token, v.final.stored? key = some token →
    w.left.stored? key = some token ∧ (w.call.isClear = false → w.final.stored? key = some token)
  same : ∀ key token token', v.given? = some (key, token) → w.given? = some (key, token') →
    token = token'

variable {v w : Visit γ μ ε}

theorem given?_eq_some {key : EntryKey} {token : γ ⊕ μ} (given : v.given? = some (key, token)) :
    v.call.key? = some key ∧ v.answer.result? = some (.ok token) := by
  unfold given? at given
  split at given
  · rename_i called gave
    cases given
    exact ⟨called, gave⟩
  · cases given

/-- The token that a call gives is the one that is stored when it ends. -/
theorem Course.stored {key : EntryKey} {token : γ ⊕ μ} (course : v.Course)
    (given : v.given? = some (key, token)) : v.final.stored? key = some token := by
  obtain ⟨named, answered⟩ := given?_eq_some given
  cases course with
  | hit called there ran gave left final =>
    cases named.symm.trans called
    cases answered.symm.trans gave
    rwa [final]
  | failed called missing result ran gave final => cases answered.symm.trans gave
  | entered called missing result ran gave enters counted =>
    cases named.symm.trans called
    cases answered.symm.trans gave
    exact enters.there
  | cleared call answer final => simp [call, Call.key?] at named
  | measured call answer final => simp [call, Call.key?] at named

/-- A resolver runs exactly when the key has no entry. -/
theorem Course.ran_iff {key : EntryKey} (course : v.Course) (named : v.call.key? = some key) :
    v.answer.ran = true ↔ v.start.stored? key = none := by
  cases course with
  | hit called there ran gave left final =>
    cases named.symm.trans called
    simp [ran, there]
  | failed called missing result ran gave final =>
    cases named.symm.trans called
    simp [ran, missing]
  | entered called missing result ran gave enters counted =>
    cases named.symm.trans called
    simp [ran, missing]
  | cleared call answer final => simp [call, Call.key?] at named
  | measured call answer final => simp [call, Call.key?] at named

theorem Course.of_error {e : ε} (course : v.Course) (running : v.answer.ran = true)
    (errs : v.call.result? = some (.error e)) :
    v.answer.result? = some (.error e) ∧ v.final = v.left := by
  cases course with
  | hit called there ran gave left final => simp [ran] at running
  | failed called missing result ran gave final =>
    cases errs.symm.trans result
    exact ⟨gave, final⟩
  | entered called missing result ran gave enters counted => cases errs.symm.trans result
  | cleared call answer final => simp [call, Call.result?] at errs
  | measured call answer final => simp [call, Call.result?] at errs

theorem account {before earlier : List (Visit γ μ ε)} (split : before = earlier ++ v.own)
    (start : Reflects v.start earlier) (left : Reflects v.left before) : v.Account before where
  began := ⟨earlier, split, start⟩
  left := left
  final := v.course.reflects left
  ran _ named := v.course.ran_iff named
  given _ _ given := v.course.stored given
  failed _ running errs := v.course.of_error running errs
  cleared clears := by
    cases v.course with
    | cleared call answer final => rw [answer, left.size]
    | hit called | failed called | entered called => simp [clears, Call.key?] at called
    | measured call => simp [clears] at call
  measured measures := by
    cases v.course with
    | measured call answer final => rw [answer, left.size, left.resolutions]
    | hit called | failed called | entered called => simp [measures, Call.key?] at called
    | cleared call => simp [measures] at call

/-- Entries stay from one call to a later one, so that both give the same token. -/
theorem agrees {between : List (Visit γ μ ε)} (h : Timeline v.final between w.left)
    (uncleared : ∀ u ∈ between, u.call.isClear = false) : v.Agrees w := by
  have stays : ∀ key token, v.final.stored? key = some token → w.left.stored? key = some token :=
    fun key token there => h.keeps uncleared there
  constructor
  · intro key token there
    refine ⟨stays key token there, fun other => w.course.keeps other (stays key token there)⟩
  · intro key token token' gave gave'
    have there := stays key token (v.course.stored gave)
    have other := isClear_of_key? (given?_eq_some gave').1
    have kept := w.course.keeps other there
    rw [w.course.stored gave'] at kept
    cases kept
    rfl

end Visit

/-- Calls within calls, from an empty cache. The answers of the run are those of all calls in the
order in which they end. Each call accounts for what it found, did and left; entries stay until a
clear, so that calls for one key with no clear in between give the same token. -/
theorem calls_accounted (calls : List (Call γ μ ε)) :
    (Call.visitsAll {} calls).map Visit.answer = Answer.eachOf (Call.runAll {} calls).1 ∧
    Reflects (Call.runAll {} calls).2 (Call.visitsAll {} calls) ∧
    (∀ before v after, Call.visitsAll {} calls = before ++ v :: after → v.Account before) ∧
    ∀ before v between w after,
      Call.visitsAll {} calls = before ++ v :: (between ++ w :: after) →
      (∀ u ∈ between, u.call.isClear = false) → v.Agrees w := by
  have follows := Call.visitsAll_follows {} calls
  have reflects {c : MemberCache γ μ} {vs : List (Visit γ μ ε)} (h : Timeline {} vs c) :
      Reflects c vs := h.reflects reflects_nil
  refine ⟨Call.visitsAll_answer {} calls, reflects follows.timeline, ?_, ?_⟩
  · intro before v after split
    obtain ⟨earlier, first, start⟩ := follows.began before v after split
    have course := follows.timeline
    rw [split] at course
    exact Visit.account first (reflects start) (reflects course.at_call.1)
  · intro before v between w after split uncleared
    have course := follows.timeline
    rw [split] at course
    exact Visit.agrees course.at_call.2.at_call.1 uncleared

/-- Both resolvers of one type run and succeed, the one within the other, and the type is what the
inner one found. -/
theorem calls_accounted_nested :
    ∃ v w : Visit Nat Nat String,
      Call.visitsAll {} [.type "A" [.type "A" [] (.ok 1)] (.ok 2)] = [v, w] ∧
      v.resolved = true ∧ w.resolved = true ∧ v.Agrees w ∧ w.Account [v] ∧
      w.given? = some (.type "A", .inl 1) := by
  have accounted := calls_accounted
    ([.type "A" [.type "A" [] (.ok 1)] (.ok 2)] : List (Call Nat Nat String))
  exact ⟨_, _, rfl, rfl, rfl, accounted.2.2.2 [] _ [] _ [] rfl nofun, accounted.2.2.1 [_] _ [] rfl,
    rfl⟩

end MemberCache
end HostBridge
