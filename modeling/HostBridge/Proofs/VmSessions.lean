import HostBridge.Bridge.State

/-!
The language of the calls into a VM. A session starts the VM, loads an image, runs its entry point
and then any number of bursts of events, and stops the VM again; a start that fails stops what it
had brought up. Scopes are properly nested within an entry of the isolate, and foreign code runs
within a scope only.
-/
namespace HostBridge

/-- A call into the VM, or how one came back. -/
abbrev VmEvent (P : Platform) := VmCall P ⊕ VmReturn P

namespace VmEvent

variable {P : Platform}

/-- How a call that gives nothing came back. -/
def returned : Except VmError Unit → VmEvent P
  | .ok () => .inr .done
  | .error e => .inr (.failed e)

/-! ### Sessions -/

/-- Scopes and drains inside an entry; the flag says whether a scope is open around them. A drain
stands in an open scope, comes back, and may have the same inside it. -/
inductive Nested : Bool → List (VmEvent P) → Prop where
  | nil {isOpen : Bool} : Nested isOpen []
  | scope {isOpen : Bool} {inner rest : List (VmEvent P)} :
    Nested true inner → Nested isOpen rest →
      Nested isOpen (.inl .enterScope :: (inner ++ .inl .exitScope :: rest))
  | drain {inner rest : List (VmEvent P)} (r : Except VmError Unit) :
    Nested true inner → Nested true rest →
      Nested true (.inl .drain :: (inner ++ returned r :: rest))

/-- One entry into the isolate of a session that runs, or the refusal of one. -/
inductive IsBurst (i : P.Isolate) : List (VmEvent P) → Prop where
  | refused (e : VmError) : IsBurst i [.inl (.enterIsolate i), .inr (.failed e)]
  | entered {inner : List (VmEvent P)} :
    Nested false inner →
      IsBurst i (.inl (.enterIsolate i) :: .inr .done :: (inner ++ [.inl .exitIsolate]))

/-- The entry that starts a program, with what happens in its scope. -/
def entry (i : P.Isolate) (inner : List (VmEvent P)) : List (VmEvent P) :=
  .inl (.enterIsolate i) :: .inr .done :: .inl .enterScope ::
    (inner ++ [.inl .exitScope, .inl .exitIsolate])

/-- The start of a program that comes to nothing. -/
inductive EntryFails (i : P.Isolate) (name : String) : List (VmEvent P) → Prop where
  | refused (e : VmError) : EntryFails i name [.inl (.enterIsolate i), .inr (.failed e)]
  | raised (e : VmError) :
    EntryFails i name (entry i [.inl (.entryPoint name), .inr (.failed e)])
  | undrained (e : VmError) :
    EntryFails i name
      (entry i [.inl (.entryPoint name), .inr .done, .inl .drain, .inr (.failed e)])

/-- The start of a program whose entry point and first drain succeed. -/
def entrySucceeds (i : P.Isolate) (name : String) : List (VmEvent P) :=
  entry i [.inl (.entryPoint name), .inr .done, .inl .drain, .inr .done]

/-- The start of a program by its result. -/
def EntryEnds (i : P.Isolate) (name : String) :
    Except VmError Unit → List (VmEvent P) → Prop
  | .ok () => (· = entrySucceeds i name)
  | .error _ => EntryFails i name

/-- The VM is started and an image loaded. -/
def load (config : Config) (image : Image) (i : P.Isolate) : List (VmEvent P) :=
  [.inl (.start config), .inr .done, .inl (.loadImage image), .inr (.loaded i)]

/-- The isolate is destroyed and the VM stopped. -/
def unload (i : P.Isolate) : List (VmEvent P) := [.inl (.shutdownIsolate i), .inl .stop]

/-- All calls of one session, from the start of the VM to its end. -/
inductive IsSession : List (VmEvent P) → Prop where
  | startFailed (config : Config) (e : VmError) :
    IsSession [.inl (.start config), .inr (.failed e)]
  | loadFailed (config : Config) (image : Image) (e : VmError) :
    IsSession [.inl (.start config), .inr .done, .inl (.loadImage image), .inr (.failed e),
      .inl .stop]
  | entryFailed (config : Config) (image : Image) (i : P.Isolate) {block : List (VmEvent P)} :
    EntryFails i config.entryPoint block → IsSession (load config image i ++ block ++ unload i)
  | ran (config : Config) (image : Image) (i : P.Isolate) {bursts : List (List (VmEvent P))} :
    (∀ burst ∈ bursts, IsBurst i burst) →
      IsSession (load config image i ++ entrySucceeds i config.entryPoint ++ bursts.flatten ++
        unload i)

/-- Sessions one after another. -/
def AreSessions (l : List (VmEvent P)) : Prop :=
  ∃ sessions : List (List (VmEvent P)), (∀ session ∈ sessions, IsSession session) ∧
    l = sessions.flatten

/-- Sessions one after another, the last of them up to some point. -/
def IsLawful (l : List (VmEvent P)) : Prop := ∃ m, AreSessions m ∧ l <+: m

/-- Sessions one after another and one that waits for bursts in an isolate. -/
def AwaitsBurst (i : P.Isolate) (l : List (VmEvent P)) : Prop :=
  ∃ before, AreSessions before ∧ ∃ (config : Config) (image : Image)
    (bursts : List (List (VmEvent P))), (∀ burst ∈ bursts, IsBurst i burst) ∧
      l = before ++ (load config image i ++ entrySucceeds i config.entryPoint ++ bursts.flatten)

/-- A point inside an entry, from which whatever is properly nested may go on. -/
def IsInside (isOpen : Bool) (l : List (VmEvent P)) : Prop :=
  ∀ inner, Nested isOpen inner → IsLawful (l ++ inner)

/-! ### Growing histories -/

variable {i : P.Isolate} {isOpen : Bool} {l m inner inner' : List (VmEvent P)}

theorem areSessions_nil : AreSessions ([] : List (VmEvent P)) := ⟨[], by simp, rfl⟩

theorem AreSessions.append (hl : AreSessions l) (hm : IsSession m) : AreSessions (l ++ m) := by
  obtain ⟨sessions, hs, rfl⟩ := hl
  refine ⟨sessions ++ [m], fun x hx => ?_, by simp⟩
  rcases List.mem_append.mp hx with hx | hx
  · exact hs x hx
  · rw [List.mem_singleton.mp hx]
    exact hm

theorem AreSessions.isLawful (hl : AreSessions l) : IsLawful l := ⟨l, hl, List.prefix_refl l⟩

/-- Every moment of a lawful history is lawful. -/
theorem IsLawful.earlier (hm : IsLawful m) (h : l <+: m) : IsLawful l := by
  obtain ⟨n, hn, hmn⟩ := hm
  exact ⟨n, hn, h.trans hmn⟩

/-- A session may be broken off at any point. -/
theorem AreSessions.isLawful_append {x : List (VmEvent P)} (hl : AreSessions l) (hx : IsSession x)
    (h : m <+: x) : IsLawful (l ++ m) :=
  ⟨l ++ x, hl.append hx, (List.prefix_append_right_inj l).mpr h⟩

/-- The start of a program may be broken off at any point. -/
theorem AreSessions.isLawful_entry {config : Config} {image : Image} {r : Except VmError Unit}
    {block : List (VmEvent P)} (hl : AreSessions l) (h : EntryEnds i config.entryPoint r block)
    (hm : m <+: block) : IsLawful (l ++ load config image i ++ m) := by
  have hsession : ∃ rest, IsSession (load config image i ++ (block ++ rest)) := by
    cases r with
    | error e =>
      exact ⟨_, by simpa only [List.append_assoc] using IsSession.entryFailed config image i h⟩
    | ok _ =>
      have ran : IsSession (load config image i ++ entrySucceeds i config.entryPoint ++
          ([] : List (List (VmEvent P))).flatten ++ unload i) := .ran config image i (by simp)
      rw [← h] at ran
      exact ⟨_, by simpa only [List.append_assoc] using ran⟩
  obtain ⟨rest, hsession⟩ := hsession
  rw [List.append_assoc]
  refine hl.isLawful_append hsession ((List.prefix_append_right_inj _).mpr ?_)
  exact hm.trans (List.prefix_append block rest)

theorem Nested.append (hl : Nested isOpen l) (hm : Nested isOpen m) : Nested isOpen (l ++ m) := by
  induction hl with
  | nil => exact hm
  | scope hinner _ _ ih =>
    simpa only [List.cons_append, List.append_assoc] using Nested.scope hinner (ih hm)
  | drain r hinner _ _ ih =>
    simpa only [List.cons_append, List.append_assoc] using Nested.drain r hinner (ih hm)

/-- A scope at the end of what happened so far. -/
theorem Nested.append_scope (hl : Nested isOpen l) (hinner : Nested true inner) :
    Nested isOpen (l ++ (.inl .enterScope :: (inner ++ [.inl .exitScope]))) :=
  hl.append (.scope hinner .nil)

/-- A drain at the end of what happened so far. -/
theorem Nested.append_drain (hl : Nested true l) (hinner : Nested true inner)
    (r : Except VmError Unit) :
    Nested true (l ++ (.inl .drain :: (inner ++ [returned r]))) :=
  hl.append (.drain r hinner .nil)

namespace AwaitsBurst

theorem append_burst {b : List (VmEvent P)} (hl : AwaitsBurst i l) (hb : IsBurst i b) :
    AwaitsBurst i (l ++ b) := by
  obtain ⟨before, hbefore, config, image, bursts, hbursts, rfl⟩ := hl
  refine ⟨before, hbefore, config, image, bursts ++ [b], fun x hx => ?_, by simp⟩
  rcases List.mem_append.mp hx with hx | hx
  · exact hbursts x hx
  · rw [List.mem_singleton.mp hx]
    exact hb

/-- The session may be ended. -/
theorem append_unload (hl : AwaitsBurst i l) : AreSessions (l ++ unload i) := by
  obtain ⟨before, hbefore, config, image, bursts, hbursts, rfl⟩ := hl
  simpa only [List.append_assoc] using hbefore.append (.ran config image i hbursts)

theorem isLawful (hl : AwaitsBurst i l) : IsLawful l :=
  hl.append_unload.isLawful.earlier (List.prefix_append l _)

/-- A burst may be broken off at any point. -/
theorem isLawful_append {b : List (VmEvent P)} (hl : AwaitsBurst i l) (hb : IsBurst i b)
    (h : m <+: b) : IsLawful (l ++ m) :=
  (hl.append_burst hb).isLawful.earlier ((List.prefix_append_right_inj l).mpr h)

/-- The isolate may be entered. -/
theorem isInside_enter (hl : AwaitsBurst i l) :
    IsInside false (l ++ [.inl (.enterIsolate i), .inr .done]) := by
  intro inner hinner
  rw [List.append_assoc]
  exact hl.isLawful_append (.entered hinner) ⟨[.inl .exitIsolate], by simp⟩

end AwaitsBurst

namespace IsInside

theorem isLawful (hl : IsInside isOpen l) : IsLawful l := by
  simpa using hl [] .nil

/-- A scope may be opened after whatever is nested. -/
theorem enterScope (hl : IsInside isOpen l) (hinner : Nested isOpen inner) :
    IsInside true (l ++ inner ++ [.inl .enterScope]) := by
  intro inner' hinner'
  refine (hl _ (hinner.append_scope hinner')).earlier ⟨[.inl .exitScope], ?_⟩
  simp

/-- The microtasks may be drained in an open scope. -/
theorem drain (hl : IsInside true l) (hinner : Nested true inner) :
    IsInside true (l ++ inner ++ [.inl .drain]) := by
  intro inner' hinner'
  refine (hl _ (hinner.append_drain hinner' (.ok ()))).earlier ⟨[returned (.ok ())], ?_⟩
  simp

end IsInside
end VmEvent
end HostBridge
