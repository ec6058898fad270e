import HostBridge.Process.JavaHost
import HostBridge.Proofs.Triple
import Mathlib.Data.List.Perm.Basic
import Mathlib.Tactic.Common

/-!
What operations on the Java VM leave behind. An exception is told and cleared wherever a result is
settled, and local references are deleted on the way out. Strings are the exception: one that cannot
be made as an argument, or read as a result, ends the operation before either is done.
-/
namespace HostBridge

open Exec

variable {N : Process} {α β : Type}

/-- The exception that is pending and the local references that are alive. -/
def Book (pending : Option String) (locals : List Nat) (s : State N.platform) : Prop :=
  s.ledger.pending = pending ∧ s.ledger.references.locals = locals

/-- No exception is pending, and these local references are alive. -/
abbrev Tidy (locals : List Nat) : State N.platform → Prop := Book none locals

/-- A computation that leaves the book as it is, where no exception is pending. -/
def Exec.StaysTidy (x : Exec N.platform α) : Prop := ∀ L, Gives (Tidy L) x fun _ => Tidy L

/-- A computation that leaves the local references as they are, where no exception is pending; it
may throw one. -/
def Exec.KeepsLocals (x : Exec N.platform α) : Prop :=
  ∀ L, Gives (Tidy L) x fun _ s => ∃ p, Book p L s

/-- A Java VM that leaves the local references of the caller alone. Any of its functions may throw
but those of which it is laid down that they do not. -/
structure JavaVm.IsTidy (J : JavaVm N (Exec N.platform)) : Prop where
  isTold : J.isTold.StaysTidy
  hasRoom : J.hasRoom.StaysTidy
  findClass : ∀ name, (J.findClass name).KeepsLocals
  findMember : ∀ c sort name signature, (J.findMember c sort name signature).KeepsLocals
  makeString : ∀ text, (J.makeString text).KeepsLocals
  stringText : ∀ o, (J.stringText o).KeepsLocals
  isInstance : ∀ o c, (J.isInstance o c).StaysTidy
  construct : ∀ c id args, (J.construct c id args).KeepsLocals
  invoke : ∀ receiver id result args, (J.invoke receiver id result args).KeepsLocals
  readField : ∀ receiver id result, (J.readField receiver id result).KeepsLocals
  writeField : ∀ receiver id v, (J.writeField receiver id v).KeepsLocals

/-! ### Failures by their text -/

namespace JavaError

/-- The failure to make a string without an exception. -/
def noString : JavaError := .null "NewStringUTF result"

/-- A pending exception is told from every other failure by its text. -/
theorem toHost_eq_thrown {e : JavaError} : e.toHost = thrown.toHost ↔ e = thrown := by
  constructor
  · intro h
    have texts : e.text = thrown.text := by simpa [toHost] using h
    unfold text at texts
    cases e with
    | thrown => rfl
    | failed => simp at texts
    | null place =>
      have first := congrArg (·.toList.head?) texts
      simp at first
    | readAsVoid => simp at texts
  · rintro rfl
    rfl

end JavaError

/-- After a call that was checked, an exception is pending exactly if it failed by throwing one. -/
def Checked (L : List Nat) (r : Except JavaError α) (s : State N.platform) : Prop :=
  ∃ p, (p ≠ none ↔ r = .error .thrown) ∧ Book p L s

/-- At the end of an operation, an exception is pending exactly if that is its result. -/
def Left (L : List Nat) (r : Except HostError α) (s : State N.platform) : Prop :=
  ∃ p, (p ≠ none ↔ r = .error JavaError.thrown.toHost) ∧ Book p L s

/-- At the end of an operation everything is cleaned up, and the result is not that an exception is
pending. -/
def Clean (L : List Nat) (r : Except HostError α) (s : State N.platform) : Prop :=
  r ≠ .error JavaError.thrown.toHost ∧ Tidy L s

section
variable {L : List Nat} {s : State N.platform}

theorem Clean.left {r : Except HostError α} (h : Clean L r s) : Left L r s :=
  ⟨none, by simpa using h.1, h.2⟩

theorem Clean.ok {a : α} (h : Tidy L s) : Clean L (.ok a : Except HostError α) s := ⟨nofun, h⟩

theorem Clean.error {e : JavaError} (h : Tidy L s) (other : e ≠ .thrown) :
    Clean L (.error e.toHost : Except HostError α) s := by
  refine ⟨fun same => other ?_, h⟩
  exact JavaError.toHost_eq_thrown.mp (Except.error.inj same)

/-- A failure that is not one of the interface is not that an exception is pending. -/
theorem Clean.other {e : HostError} (h : Tidy L s) (other : ∀ text, e ≠ .interface text) :
    Clean L (.error e : Except HostError α) s :=
  ⟨fun same => other _ (Except.error.inj same), h⟩

/-- A failure is handed on whatever would have come of success. -/
theorem Clean.cast {e : HostError} (h : Clean L (.error e : Except HostError α) s) :
    Clean L (.error e : Except HostError β) s :=
  ⟨fun same => h.1 (by rw [Except.error.inj same]), h.2⟩

theorem Clean.map {r : Except HostError α} (h : Clean L r s) (f : α → β) :
    Clean L (r.map f) s := by
  cases r with
  | ok a => exact Clean.ok h.2
  | error e => exact h.cast

theorem Left.map {r : Except HostError α} (h : Left L r s) (f : α → β) : Left L (r.map f) s := by
  obtain ⟨p, hp, book⟩ := h
  refine ⟨p, hp.trans ?_, book⟩
  cases r with
  | ok a => simp [Except.map]
  | error e => simp [Except.map]

theorem Checked.ok {a : α} (h : Tidy L s) : Checked L (.ok a : Except JavaError α) s :=
  ⟨none, by simp, h⟩

theorem Checked.error {e : JavaError} (h : Tidy L s) (other : e ≠ .thrown) :
    Checked L (.error e : Except JavaError α) s :=
  ⟨none, by simpa using other, h⟩

theorem Checked.tidy {a : α} (h : Checked L (.ok a : Except JavaError α) s) : Tidy L s := by
  obtain ⟨p, hp, book⟩ := h
  cases p with
  | none => exact book
  | some text => exact absurd (hp.mp nofun) nofun

theorem Checked.cast {e : JavaError} (h : Checked L (.error e : Except JavaError α) s) :
    Checked L (.error e : Except JavaError β) s := by
  obtain ⟨p, hp, book⟩ := h
  exact ⟨p, by simpa using hp, book⟩

theorem Checked.left {r : Except JavaError α} (h : Checked L r s) :
    Left L (r.mapError JavaError.toHost) s := by
  obtain ⟨p, hp, book⟩ := h
  refine ⟨p, hp.trans ?_, book⟩
  cases r with
  | ok a => simp [Except.mapError]
  | error e => simp [Except.mapError, JavaError.toHost_eq_thrown]

end

/-! ### The thread -/

namespace JavaThread

variable {p : Option String} {L M : List Nat}

section
variable {E H : State N.platform → Prop}

theorem addLocal_book (target : α) :
    Triple (Book p L) (addLocal (N := N) target) (fun l => Book p (l.id :: L)) E H :=
  fun _ h => ⟨h.1, congrArg _ h.2⟩

theorem dropLocal_book (l : Local α) :
    Triple (Book p L) (dropLocal (N := N) l) (fun _ => Book p (L.erase l.id)) E H :=
  fun _ h => ⟨h.1, congrArg (·.erase l.id) h.2⟩

/-- Dropping what was added leaves the references of before. -/
theorem dropLocals_book (ls : List (Local α)) (added : M.Perm (ls.map (·.id))) :
    Triple (Book p (M ++ L)) (dropLocals (N := N) ls) (fun _ => Book p L) E H := by
  induction ls generalizing M with
  | nil =>
    obtain rfl : M = [] := by simpa using added
    exact Triple.pure fun _ h => h
  | cons l ls ih =>
    have mem : l.id ∈ M := added.symm.subset (by simp)
    have rest : (M.erase l.id).Perm (ls.map (·.id)) := by simpa using added.erase l.id
    refine Triple.bind ((dropLocal_book l).weaken fun _ s h => ?_) fun _ => ih rest
    rwa [List.erase_append_left L mem] at h

theorem signal_book (c : JavaCall N.Object N.Class N.MemberId) :
    Triple (Book p L) (signal c) (fun _ => Book p L) E H :=
  fun _ h => h

end

variable {J : JavaVm N (Exec N.platform)}

theorem environment_clean : Gives (Tidy L) (environment J) (Clean L) := by
  unfold environment
  refine Triple.bind Triple.asked fun attached => ?_
  split
  · exact Triple.pure fun _ h => Clean.other h nofun
  · refine Triple.bind Triple.asked fun attaches => ?_
    split
    · exact Triple.pure fun _ h => Clean.ok h
    · exact Triple.pure fun _ h => Clean.error h nofun

/-- A call that throws leaves its exception pending. -/
theorem call_book {x : Exec N.platform (Raised α)} (hx : x.KeepsLocals) :
    Gives (Tidy L) (call x) (fun _ s => ∃ p, Book p L s) := by
  unfold call
  refine Triple.bind (hx L) fun r => Triple.of_exists fun p => ?_
  cases r.exception with
  | none => exact Triple.pure fun _ h => ⟨p, h⟩
  | some text =>
    refine Triple.bind (Triple.modify fun s h => ?_) fun _ => Triple.pure fun _ h => ⟨some text, h⟩
    exact ⟨rfl, h.2⟩

theorem checked_checked {x : Exec N.platform (Raised α)} (hx : x.KeepsLocals) :
    Gives (Tidy L) (checked x) (fun r s => (∀ e, r = .error e → e = .thrown) ∧ Checked L r s) := by
  unfold checked
  refine Triple.bind (call_book hx) fun a => Triple.of_exists fun p => ?_
  refine Triple.bind Triple.asks fun pending => ?_
  cases pending with
  | none =>
    refine Triple.pure fun s h => ⟨nofun, Checked.ok ?_⟩
    exact ⟨h.1.symm, h.2.2⟩
  | some text =>
    refine Triple.pure fun s h =>
      ⟨fun e same => (Except.error.inj same).symm, some text, by simp, ?_⟩
    exact ⟨h.1.symm, h.2.2⟩

theorem nonNull_checked {x : Exec N.platform (Raised (Option α))} (hx : x.KeepsLocals)
    (place : String) : Gives (Tidy L) (nonNull place x) (fun r s =>
      (∀ e, r = .error e → e = .thrown ∨ e = .null place) ∧ Checked L r s) := by
  unfold nonNull
  refine Triple.bind (checked_checked hx) fun r => ?_
  rcases r with e | _ | a
  · refine Triple.pure fun s h => ⟨fun e' same => .inl ?_, h.2.cast⟩
    rw [← Except.error.inj same]
    exact h.1 e rfl
  · refine Triple.pure fun s h => ⟨fun e same => .inr (Except.error.inj same).symm, ?_⟩
    exact Checked.error h.2.tidy nofun
  · exact Triple.pure fun s h => ⟨nofun, Checked.ok h.2.tidy⟩

/-- Settling clears what is pending, and tells it apart from a failure of the interface. -/
theorem settle_clean {r : Except JavaError α} (thrown : r = .error .thrown → p ≠ none)
    (during : String) : Gives (Book p L) (settle (N := N) during r) (Clean L) := by
  unfold settle
  refine Triple.bind Triple.asks fun pending => ?_
  cases pending with
  | none =>
    refine Triple.pure fun s h => ?_
    have none' : p = none := h.2.1.symm.trans h.1.symm
    have tidy : Tidy L s := ⟨h.1.symm, h.2.2⟩
    cases r with
    | ok a => exact Clean.ok tidy
    | error e => exact Clean.error tidy fun same => thrown (by rw [same]) none'
  | some text =>
    have cleared : Gives (Book p L) (updateLedger (N := N) ({ · with pending := none }))
        (fun _ => Tidy L) := Triple.modify fun _ h => ⟨rfl, h.2⟩
    refine Triple.bind (Triple.of_imp (signal_book _) fun _ h => h.2) fun _ =>
      Triple.bind cleared fun _ => Triple.pure fun _ h => Clean.other h nofun

/-- A call that was checked is settled. -/
theorem settle_checked {r : Except JavaError α} (during : String) :
    Gives (Checked L r) (settle (N := N) during r) (Clean L) := by
  refine Triple.of_exists fun p => Triple.of_and fun hp => ?_
  exact settle_clean hp.mpr during

variable (tidy : J.IsTidy)
include tidy

theorem makeString_checked (text : String) : Gives (Tidy L) (makeString J text) (fun r s =>
    (∀ e, r = .error e → e = .thrown ∨ e = .noString) ∧ Checked L r s) :=
  Triple.bind (signal_book _) fun _ => nonNull_checked (tidy.makeString text) _

theorem stringText_checked (o : Option N.Object) :
    Gives (Tidy L) (stringText J o) (Checked L) := by
  unfold stringText
  refine Triple.bind (nonNull_checked (tidy.findClass _) _) fun r => ?_
  cases r with
  | error e => exact Triple.pure fun _ h => h.2.cast
  | ok c =>
    cases o with
    | none => exact Triple.pure fun _ h => Checked.error h.2.tidy nofun
    | some o =>
      refine Triple.bind (Triple.of_imp (tidy.isInstance o c L) fun _ h => h.2.tidy) fun found => ?_
      cases found with
      | true =>
        exact (nonNull_checked (tidy.stringText o) _).weaken fun _ _ h => h.2
      | false => exact Triple.pure fun _ h => Checked.error h nofun

/-- A local reference is deleted whether or not there is one that lasts. -/
theorem pin_clean (l : Local α) : Gives (Tidy (l.id :: L)) (pin J l) (Clean L) := by
  have made : Gives (Tidy (l.id :: L)) (newPin J l.target) (fun _ => Tidy (l.id :: L)) := by
    unfold newPin
    refine Triple.bind (tidy.isTold _) fun told => ?_
    split
    · refine Triple.bind (tidy.hasRoom _) fun room => ?_
      have entered : Gives (Tidy (l.id :: L)) (useReferences (N := N) fun r =>
          r.addPin (if room then some l.target else none)) (fun _ => Tidy (l.id :: L)) :=
        fun _ h => h
      exact Triple.bind entered fun _ => Triple.pure fun _ h => h
    · exact Triple.pure fun _ h => h
  unfold pin
  refine Triple.bind made fun r => Triple.bind (dropLocal_book l) fun _ => ?_
  rw [List.erase_cons_head]
  refine Triple.pure fun s h => ?_
  cases r with
  | ok pinned => exact Clean.ok h
  | error e => exact Clean.other h nofun

theorem pinGiven_clean (given : Option α) : Gives (Tidy L) (pinGiven J given) (Clean L) := by
  unfold pinGiven
  cases given with
  | none => exact Triple.pure fun _ h => Clean.ok h
  | some target =>
    exact Triple.bind (addLocal_book target) fun l => Triple.bind (pin_clean tidy l) fun _ =>
      Triple.pure fun _ h => h.map some

end JavaThread

/-! ### Values -/

/-- Whether a string has to be made for a value. -/
def HostValue.isText {O : Type} : HostValue O → Bool
  | .string (some _) => true
  | _ => false

/-- The failures to make a string. -/
def JavaError.IsOfString (e : JavaError) : Prop := e = .thrown ∨ e = .noString

namespace JavaHost

open JavaThread

/-- What lowering a value leaves: a local reference for the string that was made, or the failure to
make it. -/
def Lowered (L : List Nat) (v : HostValue (Pin N.Object)) :
    Except JavaError (HostValue N.Object × Option (Local N.Object)) → State N.platform → Prop
  | .ok (_, made), s => (v.isText = false → made = none) ∧ Tidy (made.toList.map (·.id) ++ L) s
  | .error e, s => (v.isText = true ∧ e.IsOfString) ∧ Checked L (.error e : Except JavaError Unit) s

/-- What lowering values leaves: local references for the strings that were made, also if one after
them could not be made. -/
def LoweredAll (L : List Nat) (vs : List (HostValue (Pin N.Object))) :
    Except JavaError (List (HostValue N.Object) × List (Local N.Object)) → State N.platform → Prop
  | .ok (_, made), s =>
    ∃ M, (M.Perm (made.map (·.id)) ∧ ((∀ v ∈ vs, v.isText = false) → made = [])) ∧ Tidy (M ++ L) s
  | .error e, s =>
    ∃ M, ((∃ v ∈ vs, v.isText = true) ∧ e.IsOfString) ∧
      Checked (M ++ L) (.error e : Except JavaError Unit) s

variable {J : JavaVm N (Exec N.platform)} (tidy : J.IsTidy) {L : List Nat}
include tidy

theorem lower_leaves (v : HostValue (Pin N.Object)) :
    Gives (Tidy L) (lower J v) (Lowered L v) := by
  have plain {x : HostValue N.Object} :
      Gives (Tidy L) (pure (.ok (x, none)) : Exec N.platform _) (Lowered L v) :=
    Triple.pure fun _ h => ⟨fun _ => rfl, h⟩
  cases v with
  | string text =>
    cases text with
    | none => exact plain
    | some text =>
      refine Triple.bind (makeString_checked tidy text) fun r => ?_
      cases r with
      | error e => exact Triple.pure fun s h => ⟨⟨rfl, h.1 e rfl⟩, h.2.cast⟩
      | ok o =>
        refine Triple.bind (Triple.of_imp (addLocal_book o) fun _ h => h.2.tidy) fun l => ?_
        exact Triple.pure fun s h => ⟨nofun, h⟩
  | _ => exact plain

theorem lowerAll_leaves (vs : List (HostValue (Pin N.Object))) :
    Gives (Tidy L) (lowerAll J vs) (LoweredAll L vs) := by
  induction vs generalizing L with
  | nil => exact Triple.pure fun _ h => ⟨[], ⟨.refl _, fun _ => rfl⟩, h⟩
  | cons v rest ih =>
    unfold lowerAll
    refine Triple.bind (lower_leaves tidy v) fun r => ?_
    rcases r with e | ⟨lowered, made⟩
    · refine Triple.pure fun s h => ⟨[], ⟨⟨v, List.mem_cons_self, h.1.1⟩, h.1.2⟩, h.2⟩
    · refine Triple.of_and fun plain => Triple.bind ih fun r => ?_
      rcases r with e | ⟨values, locals⟩
      · refine Triple.pure fun s h => ?_
        obtain ⟨M, ⟨⟨v', mem, isText⟩, ofString⟩, checked⟩ := h
        rw [← List.append_assoc] at checked
        exact ⟨_, ⟨⟨v', List.mem_cons_of_mem v mem, isText⟩, ofString⟩, checked⟩
      · refine Triple.pure fun s h => ?_
        obtain ⟨M, ⟨perm, none'⟩, book⟩ := h
        rw [← List.append_assoc] at book
        refine ⟨_, ⟨?_, fun unused => ?_⟩, book⟩
        · rw [List.map_append]
          exact (List.perm_append_comm).trans (perm.append_left _)
        · have others (v') (hv : v' ∈ rest) := unused v' (List.mem_cons_of_mem v hv)
          rw [plain (unused v List.mem_cons_self), none' others]
          rfl

theorem lift_leaves (kind : ValueKind) (x : Given N.Object kind) :
    Gives (Tidy L) (lift J kind x) (fun r s => Left L r s ∧ (kind ≠ .string → Clean L r s)) := by
  have clean {kind : ValueKind} {y : Exec N.platform (Except HostError (HostValue (Pin N.Object)))}
      (hy : Gives (Tidy L) y (Clean L)) :
      Gives (Tidy L) y (fun r s => Left L r s ∧ (kind ≠ .string → Clean L r s)) :=
    hy.weaken fun _ _ h => ⟨h.left, fun _ => h⟩
  have given (o : Option N.Object) : Gives (Tidy L) (do
      return (← pinGiven J o).map HostValue.object) (Clean L) :=
    Triple.bind (pinGiven_clean tidy o) fun _ => Triple.pure fun _ h => h.map _
  cases kind with
  | object => exact clean (given x)
  | array => exact clean (given x)
  | string =>
    cases x with
    | none => exact clean (Triple.pure fun _ h => Clean.ok h)
    | some o =>
      refine Triple.bind (addLocal_book o) fun l => ?_
      refine Triple.bind (stringText_checked tidy (some o)) fun text => ?_
      refine Triple.of_exists fun p => Triple.of_and fun hp => ?_
      refine Triple.bind (dropLocal_book l) fun _ =>
        Triple.pure fun s h => ⟨?_, fun ne => (ne rfl).elim⟩
      rw [List.erase_cons_head] at h
      have checked : Checked L text s := ⟨p, hp, h⟩
      exact checked.left.map _
  | _ => exact clean (Triple.pure fun _ h => Clean.ok h)

/-! ### Operations -/

/-- A look-up cleans up after itself, whatever the Java VM does. -/
theorem resolveType_clean (name : String) : Gives (Tidy L) (resolveType J name) (Clean L) := by
  unfold resolveType
  refine Triple.bind environment_clean fun r => ?_
  cases r with
  | error e => exact Triple.pure fun _ h => h.cast
  | ok _ =>
    refine Triple.bind (Triple.of_imp (nonNull_checked (tidy.findClass _) _) fun _ h => h.2)
      fun found => ?_
    refine Triple.bind (Triple.of_imp (settle_checked "find_class") fun _ h => h.2) fun r => ?_
    split
    · exact Triple.pure fun _ h => Clean.other h.2 nofun
    · exact Triple.pure fun _ h => h.cast
    · refine Triple.bind (Triple.of_imp (addLocal_book _) fun _ h => h.2) fun l => ?_
      exact pin_clean tidy l

omit tidy in
theorem lookupFailure_ne (key : MemberKey) {e : HostError}
    (h : e ≠ JavaError.thrown.toHost) : lookupFailure key e ≠ JavaError.thrown.toHost := by
  cases e <;> first | exact h | exact nofun

theorem resolveMember_clean (type : Pin N.Class) (key : MemberKey) :
    Gives (Tidy L) (resolveMember J type key) (Clean L) := by
  unfold resolveMember
  refine Triple.bind environment_clean fun r => ?_
  cases r with
  | error e => exact Triple.pure fun _ h => h.cast
  | ok _ =>
    refine Triple.bind (Triple.of_imp (nonNull_checked (tidy.findMember _ _ _ _) _) fun _ h => h.2)
      fun found => ?_
    refine Triple.bind (Triple.of_imp (settle_checked "member lookup") fun _ h => h.2) fun r => ?_
    cases r with
    | error e =>
      refine Triple.pure fun _ h => ⟨fun same => ?_, h.2⟩
      exact lookupFailure_ne key (fun eq => h.1 (by rw [eq])) (Except.error.inj same)
    | ok id => exact Triple.pure fun _ h => Clean.ok h.2

omit tidy

/-- At the end of a call an exception is pending exactly if that is its result, and strings made for
its arguments are alive only if the one after them could not be made. -/
def CallLeaves (L : List Nat) (r : Except HostError α) (s : State N.platform) : Prop :=
  ∃ M, (M ≠ [] → ∃ e : JavaError, e.IsOfString ∧ r = .error e.toHost) ∧ Left (M ++ L) r s

theorem CallLeaves.of_left {r : Except HostError α} {s : State N.platform} (h : Left L r s) :
    CallLeaves L r s :=
  ⟨[], fun ne => (ne rfl).elim, h⟩

/-- A call whose arguments could not be lowered. -/
theorem LoweredAll.callLeaves {vs : List (HostValue (Pin N.Object))} {e : JavaError}
    {s : State N.platform} (h : LoweredAll L vs (.error e) s) :
    CallLeaves L (.error e.toHost : Except HostError α) s := by
  obtain ⟨M, ⟨-, ofString⟩, checked⟩ := h
  exact ⟨M, fun _ => ⟨e, ofString, rfl⟩, (checked.cast (β := α)).left⟩

/-- Lowering fails only where there is a string to make. -/
theorem LoweredAll.not_unused {vs : List (HostValue (Pin N.Object))} {e : JavaError}
    {s : State N.platform} (h : LoweredAll L vs (.error e) s) :
    ¬∀ v ∈ vs, v.isText = false := by
  intro unused
  obtain ⟨M, ⟨⟨v, mem, isText⟩, -⟩, -⟩ := h
  rw [unused v mem] at isText
  cases isText

/-- Once a call is settled, the strings that were made for its arguments are dropped. -/
theorem settled_leaves {β γ : Type} {M : List Nat} {locals : List (Local β)} {during : String}
    {x : Exec N.platform (Except JavaError α)}
    {next : Except HostError α → Exec N.platform (Except HostError γ)}
    {post : Except HostError γ → State N.platform → Prop} (added : M.Perm (locals.map (·.id)))
    (called : Gives (Tidy (M ++ L)) x (Checked (M ++ L)))
    (goes : ∀ r, Gives (Clean L r) (next r) post) :
    Gives (Tidy (M ++ L)) (do
      let given ← x
      let given ← settle during given
      dropLocals locals
      next given) post := by
  refine Triple.bind called fun r => Triple.bind (settle_checked during) fun r => ?_
  refine Triple.of_and fun notThrown => Triple.bind (dropLocals_book locals added) fun _ => ?_
  exact (goes r).of_imp fun _ h => ⟨notThrown, h⟩

include tidy

theorem construct_leaves (type : Pin N.Class) (member : JavaMember N.MemberId)
    (args : List (HostValue (Pin N.Object))) :
    Gives (Tidy L) (construct J type member args) (fun r s =>
      CallLeaves L r s ∧ ((∀ v ∈ args, v.isText = false) → Clean L r s)) := by
  have clean {r : Except HostError (Option (Pin N.Object))} {s : State N.platform}
      (h : Clean L r s) :
      CallLeaves L r s ∧ ((∀ v ∈ args, v.isText = false) → Clean L r s) :=
    ⟨.of_left h.left, fun _ => h⟩
  unfold construct
  split
  · exact Triple.pure fun _ h => clean (Clean.other h nofun)
  refine Triple.bind environment_clean fun r => ?_
  cases r with
  | error e => exact Triple.pure fun _ h => clean h.cast
  | ok _ =>
    refine Triple.bind (Triple.of_imp (lowerAll_leaves tidy args) fun _ h => h.2) fun r => ?_
    rcases r with e | ⟨values, locals⟩
    · exact Triple.pure fun s h => ⟨h.callLeaves, fun unused => (h.not_unused unused).elim⟩
    · refine Triple.of_exists fun M => Triple.of_and fun ⟨perm, _⟩ => ?_
      refine Triple.bind (signal_book _) fun _ => ?_
      have made := nonNull_checked (L := M ++ L) (tidy.construct type.target member.id values)
        "NewObjectA result"
      refine settled_leaves perm (made.weaken fun _ _ h => h.2) fun r => ?_
      cases r with
      | error e => exact Triple.pure fun _ h => clean h.cast
      | ok o =>
        have pinned := (pinGiven_clean (L := L) tidy (some o)).weaken fun _ _ => clean
        exact pinned.of_imp fun _ h => h.2

theorem invoke_leaves (receiver : Receiver (Pin N.Object) (Pin N.Class))
    (member : JavaMember N.MemberId) (result : ValueKind) (args : List (HostValue (Pin N.Object))) :
    Gives (Tidy L) (invoke J receiver member result args) (fun r s =>
      CallLeaves L r s ∧
        ((∀ v ∈ args, v.isText = false) → result ≠ .string → Clean L r s)) := by
  have clean {r : Except HostError (HostValue (Pin N.Object))} {s : State N.platform}
      (h : Clean L r s) : CallLeaves L r s ∧
        ((∀ v ∈ args, v.isText = false) → result ≠ .string → Clean L r s) :=
    ⟨.of_left h.left, fun _ _ => h⟩
  unfold invoke
  refine Triple.bind environment_clean fun r => ?_
  cases r with
  | error e => exact Triple.pure fun _ h => clean h.cast
  | ok _ =>
    refine Triple.bind (Triple.of_imp (lowerAll_leaves tidy args) fun _ h => h.2) fun r => ?_
    rcases r with e | ⟨values, locals⟩
    · exact Triple.pure fun s h => ⟨h.callLeaves, fun unused => (h.not_unused unused).elim⟩
    · refine Triple.of_exists fun M => Triple.of_and fun ⟨perm, _⟩ => ?_
      cases methodReceiver receiver member.sort with
      | none =>
        refine Triple.bind (dropLocals_book locals perm) fun _ => ?_
        exact Triple.pure fun _ h => clean (Clean.other h nofun)
      | some target =>
        refine Triple.bind (signal_book _) fun _ => ?_
        have given := checked_checked (L := M ++ L) (tidy.invoke target member.id result values)
        refine settled_leaves perm (given.weaken fun _ _ h => h.2) fun r => ?_
        cases r with
        | error e => exact Triple.pure fun _ h => clean h.cast
        | ok x =>
          refine Triple.of_imp ?_ fun _ h => h.2
          exact (lift_leaves tidy result x).weaken fun _ _ h => ⟨.of_left h.1, fun _ => h.2⟩

omit tidy in
/-- The receiver of a field is found without the Java VM. -/
theorem withFieldReceiver_gives {place : String} {receiver : Receiver (Pin N.Object) (Pin N.Class)}
    {body : Receiver N.Object (Option N.Class) → Exec N.platform (Except JavaError α)}
    {pre : State N.platform → Prop} {post : Except JavaError α → State N.platform → Prop}
    (hbody : ∀ target, Gives pre (body target) post)
    (null : ∀ s, pre s → post (.error (.null place)) s) :
    Gives pre (withFieldReceiver place receiver body) post := by
  rcases receiver with ⟨id, _ | o⟩ | c
  · exact Triple.pure null
  · exact hbody _
  · exact hbody _

theorem readField_leaves (receiver : Receiver (Pin N.Object) (Pin N.Class))
    (member : JavaMember N.MemberId) (kind : ValueKind) :
    Gives (Tidy L) (readField J receiver member kind) (fun r s =>
      Left L r s ∧ (kind ≠ .string → Clean L r s)) := by
  have clean {r : Except HostError (HostValue (Pin N.Object))} {s : State N.platform}
      (h : Clean L r s) : Left L r s ∧ (kind ≠ .string → Clean L r s) := ⟨h.left, fun _ => h⟩
  unfold readField
  refine Triple.bind environment_clean fun r => ?_
  cases r with
  | error e => exact Triple.pure fun _ h => clean h.cast
  | ok _ =>
    cases fieldReceiver receiver member.sort with
    | none => exact Triple.pure fun _ h => clean (Clean.other h.2 nofun)
    | some target =>
      have given : Gives (Tidy L) (withFieldReceiver "get_field_typed obj argument" target
          fun target => if kind = .void then return .error .readAsVoid
            else checked (J.readField target member.id kind)) (Checked L) := by
        refine withFieldReceiver_gives (fun target => ?_) fun _ h => Checked.error h nofun
        split
        · exact Triple.pure fun _ h => Checked.error h nofun
        · exact (checked_checked (tidy.readField _ _ _)).weaken fun _ _ h => h.2
      refine Triple.bind (given.of_imp fun _ h => h.2) fun given => ?_
      refine Triple.bind (settle_checked "field read") fun r => ?_
      cases r with
      | error e => exact Triple.pure fun _ h => clean h.cast
      | ok x => exact (lift_leaves tidy kind x).of_imp fun _ h => h.2

theorem writeField_leaves (receiver : Receiver (Pin N.Object) (Pin N.Class))
    (member : JavaMember N.MemberId) (value : HostValue (Pin N.Object)) :
    Gives (Tidy L) (writeField J receiver member value) (fun r s =>
      Left L r s ∧ (value.isText = false → Clean L r s)) := by
  have clean {r : Except HostError Unit} {s : State N.platform} (h : Clean L r s) :
      Left L r s ∧ (value.isText = false → Clean L r s) := ⟨h.left, fun _ => h⟩
  unfold writeField
  refine Triple.bind environment_clean fun r => ?_
  cases r with
  | error e => exact Triple.pure fun _ h => clean h
  | ok _ =>
    refine Triple.bind ((lower_leaves tidy value).of_imp fun _ h => h.2) fun r => ?_
    rcases r with e | ⟨lowered, made⟩
    · refine Triple.pure fun s h => ⟨(h.2.cast (β := Unit)).left, fun plain => ?_⟩
      obtain ⟨⟨isText, -⟩, -⟩ := h
      rw [plain] at isText
      cases isText
    · refine Triple.of_and fun _ => ?_
      have drop {p : Option String} : Gives (Book p (made.toList.map (·.id) ++ L))
          (dropLocals (N := N) made.toList) (fun _ => Book p L) := dropLocals_book _ (.refl _)
      cases fieldReceiver receiver member.sort with
      | none =>
        refine Triple.bind drop fun _ => ?_
        exact Triple.pure fun _ h => clean (Clean.other h nofun)
      | some target =>
        have written : Gives (Tidy (made.toList.map (·.id) ++ L))
            (withFieldReceiver "set_field_typed obj argument" target fun target =>
              return .ok (← call (J.writeField target member.id lowered))) (fun r s =>
            ∃ p, r ≠ .error .thrown ∧ Book p (made.toList.map (·.id) ++ L) s) := by
          refine withFieldReceiver_gives (fun target => ?_) fun s h => ⟨none, nofun, h⟩
          refine Triple.bind (call_book (tidy.writeField _ _ _)) fun _ => ?_
          exact Triple.pure fun s ⟨p, h⟩ => ⟨p, nofun, h⟩
        refine Triple.bind written fun r => Triple.of_exists fun p => Triple.of_and fun other => ?_
        refine Triple.bind (settle_clean (fun thrown => (other thrown).elim) "field write")
          fun r => ?_
        refine Triple.of_and fun notThrown => Triple.bind drop fun _ => ?_
        have ended : Gives (Tidy L) (pure r : Exec N.platform _) (fun r s =>
            Left L r s ∧ (value.isText = false → Clean L r s)) :=
          Triple.pure fun _ h => clean ⟨notThrown, h⟩
        split
        · exact Triple.bind (Triple.record fun _ h => h) fun _ => ended
        · exact ended

end JavaHost

/-! ### A Java VM that is short of memory -/

namespace Plain

/-- Objects are texts; there is one class with one member of each sort. -/
def process : Process where
  Object := String
  Class := Unit
  MemberId := Unit
  Isolate := Unit
  isNull _ := false
  Handler := Unit
  Sink := Unit
  Note := Empty
  World := Unit
  Extra _ := Empty

/-- A Java VM with memory for short strings only. -/
def javaVm : JavaVm process (Exec process.platform) where
  attaches _ := true
  isTold := pure true
  hasRoom := pure true
  findClass _ := pure ⟨some (), none⟩
  findMember _ _ _ _ := pure ⟨some (), none⟩
  makeString text :=
    pure (if text.length < 4 then ⟨some text, none⟩ else ⟨none, some "OutOfMemoryError"⟩)
  stringText o := pure ⟨some o, none⟩
  isInstance _ _ := pure true
  construct _ _ _ := pure ⟨some "made", none⟩
  invoke _ _ result _ := pure ⟨.zero result, none⟩
  readField _ _ result := pure ⟨.zero result, none⟩
  writeField _ _ _ := pure ⟨(), none⟩

theorem javaVm_isTidy : javaVm.IsTidy := by
  have tidy {α : Type} (a : α) : (pure a : Exec process.platform α).StaysTidy :=
    fun _ => Triple.pure fun _ h => h
  have keeps {α : Type} (a : α) : (pure a : Exec process.platform α).KeepsLocals :=
    fun _ => Triple.pure fun _ h => ⟨none, h⟩
  exact ⟨tidy _, tidy _, fun _ => keeps _, fun _ _ _ _ => keeps _, fun _ => keeps _,
    fun _ => keeps _, fun _ _ => tidy _, fun _ _ _ => keeps _, fun _ _ _ _ => keeps _,
    fun _ _ _ => keeps _, fun _ _ _ => keeps _⟩

/-- A process that is attached to its Java VM. -/
def attached : State process.platform where
  ledger := { attached := true }
  world := ()

end Plain

namespace JavaHost

/-- What each operation of the host leaves of a book without an exception, whatever the Java VM
throws. Look-ups clean up after themselves, and so does every operation that has no string to make
and none to read. If one has, an exception is left pending exactly if that is the result; strings
made for arguments are left alive only if the one after them could not be made. -/
theorem host_leaves {J : JavaVm N (Exec N.platform)} (tidy : J.IsTidy) (L : List Nat) :
    (∀ name, Gives (Tidy L) ((host J).resolveType name) (Clean L)) ∧
    (∀ type key, Gives (Tidy L) ((host J).resolveMember type key) (Clean L)) ∧
    (∀ type member args, Gives (Tidy L) ((host J).construct type member args) fun r s =>
      CallLeaves L r s ∧ ((∀ v ∈ args, v.isText = false) → Clean L r s)) ∧
    (∀ receiver member result args,
      Gives (Tidy L) ((host J).invoke receiver member result args) fun r s =>
        CallLeaves L r s ∧
          ((∀ v ∈ args, v.isText = false) → result ≠ .string → Clean L r s)) ∧
    (∀ receiver member kind, Gives (Tidy L) ((host J).readField receiver member kind) fun r s =>
      Left L r s ∧ (kind ≠ .string → Clean L r s)) ∧
    (∀ receiver member value, Gives (Tidy L) ((host J).writeField receiver member value) fun r s =>
      Left L r s ∧ (value.isText = false → Clean L r s)) :=
  ⟨resolveType_clean tidy, resolveMember_clean tidy, construct_leaves tidy, invoke_leaves tidy,
    readField_leaves tidy, writeField_leaves tidy⟩

/-- A call that makes a string and comes back has the book cleared. -/
theorem host_leaves_shortString :
    ∃ t, (host Plain.javaVm).writeField (.static ⟨0, some ()⟩) ⟨.staticField, ()⟩
        (.string (some "abc")) Plain.attached = (.value (.ok ()), t) ∧ Left [] (.ok ()) t := by
  obtain ⟨-, -, -, -, -, writes⟩ := host_leaves Plain.javaVm_isTidy []
  have leaves := (writes (.static ⟨0, some ()⟩) ⟨.staticField, ()⟩ (.string (some "abc"))).of_imp
    fun s (same : s = Plain.attached) => by
      rw [same]
      exact ⟨rfl, rfl⟩
  exact ⟨_, rfl, (leaves.of_value rfl).1⟩

/-- A second string for which there is no memory leaves its exception pending and the first string
alive, and the next call fails by that exception. -/
theorem invoke_leaves_exception :
    Tidy [] Plain.attached ∧
    ∃ t, (host Plain.javaVm).invoke (.static ⟨0, some ()⟩) ⟨.staticMethod, ()⟩ .int
        [.string (some "abc"), .string (some "long")] Plain.attached =
          (.value (.error JavaError.thrown.toHost), t) ∧
      t.ledger.pending = some "OutOfMemoryError" ∧ t.ledger.references.locals = [0] ∧
      ((host Plain.javaVm).invoke (.static ⟨0, some ()⟩) ⟨.staticMethod, ()⟩ .int []
        Plain.attached).1 = .value (.ok (.int 0)) ∧
      ((host Plain.javaVm).invoke (.static ⟨0, some ()⟩) ⟨.staticMethod, ()⟩ .int [] t).1 =
        .value (.error (.exception "method call")) :=
  ⟨⟨rfl, rfl⟩, _, rfl, rfl, rfl, rfl, rfl⟩

end JavaHost
end HostBridge
