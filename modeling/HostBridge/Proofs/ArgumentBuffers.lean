import HostBridge.Proofs.FieldWrites
import HostBridge.Proofs.OperationRuns
import HostBridge.Proofs.Plain
import HostBridge.Proofs.Stages
import HostBridge.Proofs.TandemPrograms

/-!
Buffers of arguments. A call takes as many words as there are parameters, zeros where the buffer is
too short, and of each word only what the kind of the parameter uses. Two buffers that agree on that
make one and the same call; a warning tells the ones that have another length apart.
-/
namespace HostBridge

open Exec

variable {P : Platform} {α : Type}

/-! ### What a kind uses of a word -/

/-- Two words are the same to a parameter: they agree in the bits that its kind uses, or name the
same object, or point to the same C string. -/
def Memory.UsesSame (m : Memory) (k : ValueKind) (v w : Word) : Prop :=
  match k with
  | .boolean => v.bits ≠ 0 ↔ w.bits ≠ 0
  | .byte => v.bits.toUInt8 = w.bits.toUInt8
  | .char | .short => v.bits.toUInt16 = w.bits.toUInt16
  | .int | .float => v.bits.toUInt32 = w.bits.toUInt32
  | .long | .double => v.bits = w.bits
  | .object | .array => v.toHandle = w.toHandle
  | .string => v.toPointer = w.toPointer ∨
      (v.toPointer ≠ 0 ∧ w.toPointer ≠ 0 ∧ ∃ b b', m.buffer? v.toPointer = some b ∧
        m.buffer? w.toPointer = some b' ∧ cBytes b = cBytes b')
  | .void => True

theorem Memory.UsesSame.refl (m : Memory) (k : ValueKind) (w : Word) : m.UsesSame k w w := by
  cases k <;> simp [UsesSame]

namespace Call

variable {F : Foreign P (Exec P)} {k : ValueKind} {v w : Word} {s : State P}

/-- The zero word stands for the zero of each kind. -/
theorem decode_zero : decode F k .zero = pure (.zero k) := by
  funext s
  cases k <;> rfl

/-- Reading a word leaves the memory alone. -/
theorem decode_memory : (decode F k w s).2.memory = s.memory := by
  have mapped {α β : Type} {x : Exec P α} (f : α → β) (kept : (x s).2.memory = s.memory) :
      ((x >>= fun a => pure (f a) : Exec P β) s).2.memory = s.memory := by
    rw [run_bind]
    rcases hx : x s with ⟨a | m | w, t⟩ <;> rw [hx] at kept <;> exact kept
  have looked (h : Handle) : (Objects.lookup F h s).2.memory = s.memory := by
    unfold Objects.lookup Exec.bridge
    rw [run_bind, run_gets]
    dsimp only
    rcases s.bridge.handles.get h with ⟨found, new, table⟩
    cases new <;> cases found <;> rfl
  have read (a : UInt64) : (readText a s).2.memory = s.memory := by
    unfold readText
    split
    · rfl
    · rw [run_bind, run_gets]
      dsimp only
      cases s.memory.buffer? a <;> rfl
  cases k with
  | string => exact mapped HostValue.string (read _)
  | object | array => exact mapped HostValue.object (looked _)
  | _ => rfl

/-- Words that are the same to a parameter are read alike. -/
theorem decode_same (same : s.memory.UsesSame k v w) : decode F k v s = decode F k w s := by
  unfold Memory.UsesSame at same
  cases k with
  | boolean =>
    have bit : v.toBool = w.toBool := by
      rw [Bool.eq_iff_iff]
      simpa [Word.toBool] using same
    simp only [decode, bit]
  | byte | char | short | int | long | float | double =>
    simp only [decode, Word.toInt8, Word.toUInt16, Word.toInt16, Word.toInt32, Word.toInt64,
      Word.toFloat32, Word.toFloat64, same]
  | object | array => simp only [decode, same]
  | string =>
    dsimp only at same
    simp only [decode]
    rcases same with address | ⟨nonnull, nonnull', b, b', found, found', bytes⟩
    · rw [address]
    · have copy : cText b = cText b' := by rw [cText, cText, bytes]
      have read : readText v.toPointer s = readText w.toPointer s := by
        simp only [readText, if_neg nonnull, if_neg nonnull', run_bind, run_gets, found, found',
          copy]
      rw [run_bind, run_bind, read]
  | void => rfl

/-- The first parameter takes the first word, or zero. -/
theorem decodeEach_cons (kinds : List ValueKind) (words : List Word) :
    decodeEach F (k :: kinds) words = do
      let v ← decode F k (words.getD 0 .zero)
      return v :: (← decodeEach F kinds words.tail) := by
  cases words with
  | nil =>
    rw [List.getD_nil, decode_zero, pure_bind]
    rfl
  | cons w words => rfl

/-- Buffers that are the same to each parameter are read alike. -/
theorem decodeEach_same {kinds : List ValueKind} {words words' : List Word}
    (same : ∀ i (inside : i < kinds.length),
      s.memory.UsesSame kinds[i] (words.getD i .zero) (words'.getD i .zero)) :
    decodeEach F kinds words s = decodeEach F kinds words' s := by
  induction kinds generalizing words words' s with
  | nil => rfl
  | cons k kinds ih =>
    have first : decode F k (words.getD 0 .zero) s = decode F k (words'.getD 0 .zero) s :=
      decode_same (same 0 (Nat.zero_lt_succ _))
    have memory : (decode F k (words'.getD 0 .zero) s).2.memory = s.memory := decode_memory
    rw [decodeEach_cons, decodeEach_cons, run_bind, run_bind, first]
    rcases read : decode F k (words'.getD 0 .zero) s with ⟨v | m | w, t⟩
    · rw [read] at memory
      dsimp only at memory ⊢
      have rest : decodeEach F kinds words.tail t = decodeEach F kinds words'.tail t := by
        apply ih
        intro i inside
        have next := same (i + 1) (Nat.succ_lt_succ inside)
        rw [← memory] at next
        cases words <;> cases words' <;> exact next
      rw [run_bind, run_bind, rest]
    · rfl
    · rfl

end Call

/-! ### Runs that a warning tells apart -/

/-- The calls that were made on the host, with their arguments. -/
def State.hostCalls (s : State P) : List (HostCall P) :=
  s.record.filterMap fun
    | .host c => some c
    | _ => none

/-- The states are the same, but that other reports are on record at one place. -/
def Apart (d d' : List Diagnostic) (s t : State P) : Prop :=
  ∃ after before, s.record = after ++ d.map .diagnostic ++ before ∧
    t = { s with record := after ++ d'.map .diagnostic ++ before }

namespace Apart

variable {d d' : List Diagnostic} {s t : State P}

theorem refl (s : State P) : Apart [] [] s s := ⟨[], s.record, rfl, rfl⟩

/-- Each gets reports of its own. -/
theorem begin (s : State P) :
    Apart d d' { s with record := d.map .diagnostic ++ s.record }
      { s with record := d'.map .diagnostic ++ s.record } :=
  ⟨[], s.record, rfl, rfl⟩

/-- Nothing is done to one of the states that is not done to the other. -/
theorem steady (d d' : List Diagnostic) (F : Foreign P (Exec P)) :
    Steady F (fun _ _ => True) (fun _ _ _ => True) (Apart d d') where
  agree := by
    rintro s _ ⟨after, before, record, rfl⟩
    rfl
  known := fun _ _ _ => trivial
  bridge := by
    rintro s _ b - ⟨after, before, record, rfl⟩
    exact ⟨after, before, record, rfl⟩
  memory := by
    rintro s _ m ⟨after, before, record, rfl⟩
    exact ⟨after, before, record, rfl⟩
  environment := by
    rintro s _ e ⟨after, before, record, rfl⟩
    exact ⟨after, before, record, rfl⟩
  record := by
    rintro s _ e ⟨after, before, record, rfl⟩
    exact ⟨e :: after, before, congrArg (e :: ·) record, rfl⟩
  counts := by
    rintro s _ f - ⟨after, before, record, rfl⟩
    exact ⟨after, before, record, rfl⟩

/-- Nor by programs, however deep they nest. -/
theorem foreign_steady (d d' : List Diagnostic) (G : Foreign P (Act P)) (limit : Nat) :
    ForeignSteady ((System.ofPrograms G).foreign limit) (fun _ _ => True) (fun _ _ _ => True)
      (Apart d d') := by
  apply System.ofPrograms_steady fun limit => steady d d' _
  rintro β f s _ ⟨after, before, record, rfl⟩
  exact ⟨rfl, after, before, record, rfl⟩

/-- Reports are no calls of the host. -/
theorem hostCalls (h : Apart d d' s t) : t.hostCalls = s.hostCalls := by
  obtain ⟨after, before, record, rfl⟩ := h
  have silent (d : List Diagnostic) : (d.map .diagnostic : List (Happening P)).filterMap
      (fun | .host c => some c | _ => none) = [] := by
    simp
  simp only [State.hostCalls, record, List.filterMap_append, silent]

end Apart

/-! ### Two computations from one state -/

/-- Both computations end in the same way, and in related states. -/
def Exec.Meet (R : State P → State P → Prop) (x y : Exec P α) (s : State P) : Prop :=
  (x s).1 = (y s).1 ∧ R (x s).2 (y s).2

namespace Exec.Meet

variable {β : Type} {R : State P → State P → Prop} {x y : Exec P α} {s : State P}

/-- What comes after both of them is in step. -/
theorem bind {f : α → Exec P β} (meet : Meet R x y s) (hf : ∀ a, InStep R (f a)) :
    Meet R (x >>= f) (y >>= f) s := by
  obtain ⟨same, related⟩ := meet
  unfold Meet
  rw [run_bind, run_bind]
  rcases hx : x s with ⟨r, t⟩
  rcases hy : y s with ⟨r', t'⟩
  rw [hx, hy] at same related
  dsimp only at same related
  subst same
  cases r with
  | value a => exact (hf a).related related
  | panic m => exact ⟨rfl, related⟩
  | halt w => exact ⟨rfl, related⟩

theorem attempt (meet : Meet R x y s) : Meet R x.attempt y.attempt s := by
  obtain ⟨same, related⟩ := meet
  unfold Meet Exec.attempt
  rcases hx : x s with ⟨r, t⟩
  rcases hy : y s with ⟨r', t'⟩
  rw [hx, hy] at same related
  dsimp only at same related
  subst same
  cases r <;> exact ⟨rfl, related⟩

theorem ensure {after : Exec P Unit} (meet : Meet R x y s) (ha : InStep R after) :
    Meet R (x.ensure after) (y.ensure after) s := by
  unfold Exec.ensure
  apply meet.attempt.bind
  intro r
  apply ha.bind
  intro _
  cases r with
  | ok a => exact InStep.pure
  | error m => exact Tandem.panic

end Exec.Meet

namespace Call

variable {β : Type} {F : Foreign P (Exec P)} {R : State P → State P → Prop} {s t : State P}

/-- Both go on from the answer of the host, if it gives one. -/
theorem meet_ofHost_bind {x : Exec P (Except HostError α)} {k k' : α → Call P β}
    (still : (∀ a t, x s ≠ (.value (.ok a), t)) → ∀ u, R u u)
    (next : ∀ a t, x s = (.value (.ok a), t) → Meet R (k a).run (k' a).run t) :
    Meet R (ofHost x >>= k).run (ofHost x >>= k').run s := by
  rw [run_ofHost_bind, run_ofHost_bind]
  unfold Meet
  rw [run_bind, run_bind]
  rcases hx : x s with ⟨(e | a) | m | w, t⟩
  · exact ⟨rfl, still (fun a t' same => by rw [hx] at same; cases same) t⟩
  · exact next a t hx
  · exact ⟨rfl, still (fun a t' same => by rw [hx] at same; cases same) t⟩
  · exact ⟨rfl, still (fun a t' same => by rw [hx] at same; cases same) t⟩

/-- The look-ups of an operation come to a member. -/
def Reached (F : Foreign P (Exec P)) (target : Target) (key : MemberKey) (s : State P)
    (found : Receiver P.Object P.Class) (member : P.Member) (t : State P) : Prop :=
  (reachField F target key).run s = (.value (.ok (found, member)), t)

/-- Two operations with the same look-ups differ in what they do with the member alone. -/
theorem meet_reached {target : Target} {key : MemberKey}
    {rest rest' : P.Class → Receiver P.Object P.Class → P.Member → Call P β}
    (dropType : ∀ c, InStep R (F.host.dropType c)) (drop : ∀ o, InStep R (F.host.drop o))
    (still : (∀ found member t, ¬ Reached F target key s found member t) → ∀ u, R u u)
    (next : ∀ type found member t, Reached F target key s found member t →
      Meet R (rest type found member).run (rest' type found member).run t) :
    Meet R
      (withType F key.className fun type => withReceiver F target type fun receiver => do
        let member ← ofHost (Members.member F type key)
        rest type receiver member).run
      (withType F key.className fun type => withReceiver F target type fun receiver => do
        let member ← ofHost (Members.member F type key)
        rest' type receiver member).run s := by
  rw [withType_cached, withType_cached]
  apply meet_ofHost_bind
  · intro untyped
    apply still
    rintro found member t reached
    obtain ⟨c, u, typed, -⟩ := of_ofHost_bind reached
    exact untyped c u typed
  · intro c t₁ typed
    apply Meet.ensure ?_ (dropType c)
    have onward : (reachField F target key).run s = (do
        let r ← receiver F target c
        let m ← ofHost (Members.member F c key)
        return (r, m) : Call P _).run t₁ := by
      unfold reachField
      rw [run_ofHost_bind, run_bind, typed]
    -- Both operations look the member up after the receiver, and drop the receiver in the end.
    have member (r : Receiver P.Object P.Class) {t₂ : State P}
        (received : (reachField F target key).run s =
          (ofHost (Members.member F c key) >>= fun m => pure (r, m) : Call P _).run t₂) :
        Meet R (ofHost (Members.member F c key) >>= rest c r).run
          (ofHost (Members.member F c key) >>= rest' c r).run t₂ := by
      apply meet_ofHost_bind
      · intro unresolved
        apply still
        intro found m t reached
        obtain ⟨m', u, resolved, -⟩ := of_ofHost_bind (received.symm.trans reached)
        exact unresolved m' u resolved
      · intro m t₃ resolved
        apply next
        rw [Reached, received, run_ofHost_bind, run_bind, resolved]
        rfl
    cases target with
    | static => exact member (.static c) onward
    | «instance» h =>
      obtain ⟨t₂, looked⟩ := lookup_gives (F := F) (s := t₁) h
      dsimp only [receiver, withReceiver] at onward ⊢
      rw [bind_assoc, run_lift_bind, run_bind, looked] at onward
      rw [run_lift_bind, run_lift_bind]
      unfold Meet
      rw [run_bind, run_bind, looked]
      dsimp only at onward ⊢
      cases behind : (t₁.bridge.handles.get h).1 with
      | none =>
        rw [behind] at onward
        refine ⟨rfl, still ?_ t₂⟩
        intro found m t reached
        cases onward.symm.trans reached
      | some o =>
        rw [behind] at onward
        exact Meet.ensure (member (.instance o) onward) (drop o)

end Call

/-! ### Calls with arguments -/

/-- What is remarked of `m` words for `n` parameters. -/
def countRemark (n m : Nat) : List Diagnostic := if n = m then [] else [.argumentCount n m]

namespace Call

variable {β : Type} {F : Foreign P (Exec P)} {t : State P}

/-- After the remark, words that are the same to each parameter are read alike, and so the rest is
in step. -/
theorem meet_withArgs {params : List ValueKind} {words words' : List Word}
    {body : List (HostValue P.Object) → Call P β}
    (steady : ForeignSteady F (fun _ _ => True) (fun _ _ _ => True)
      (Apart (countRemark params.length words.length) (countRemark params.length words'.length)))
    (same : ∀ i (inside : i < params.length),
      t.memory.UsesSame params[i] (words.getD i .zero) (words'.getD i .zero))
    (hbody : ∀ args, InStep
      (Apart (countRemark params.length words.length) (countRemark params.length words'.length))
      (body args).run) :
    Meet (Apart (countRemark params.length words.length) (countRemark params.length words'.length))
      (withArgs F params words body).run (withArgs F params words' body).run t := by
  let rest (values : List (HostValue P.Object)) : Exec P (Except CallError β) :=
    (ensure (body values) (F.host.dropValues values)).run
  let remarked (ws : List Word) : State P :=
    { t with record := (countRemark params.length ws.length).map .diagnostic ++ t.record }
  have split (ws : List Word) : (withArgs F params ws body).run t =
      (decodeEach F params ws >>= rest) (remarked ws) := by
    unfold withArgs decodeArgs
    rw [run_lift_bind]
    by_cases count : params.length = ws.length
    · simp only [count, ne_eq, not_true_eq_false, if_false, remarked, countRemark, if_true]
      rfl
    · simp only [ne_eq, count, not_false_eq_true, if_true, remarked, countRemark, if_false]
      rfl
  have alike : (decodeEach F params words' >>= rest) (remarked words') =
      (decodeEach F params words >>= rest) (remarked words') := by
    have read : decodeEach F params words (remarked words') =
        decodeEach F params words' (remarked words') :=
      decodeEach_same same
    rw [run_bind, run_bind, read]
  have inStep : InStep
      (Apart (countRemark params.length words.length) (countRemark params.length words'.length))
      (decodeEach F params words >>= rest) := by
    apply (steady.decodeEach params words).bind
    intro values
    exact inStep_ensure (hbody values) (InStep.forM steady.dropValue values)
  unfold Meet
  rw [split, split, alike]
  exact inStep.related (Apart.begin t)

end Call

/-- A buffer that is filled up with zeros and cut has the same words in its places. -/
theorem getD_padded (words : List Word) {n i : Nat} (inside : i < n) :
    ((words ++ List.replicate n Word.zero).take n).getD i .zero = words.getD i .zero := by
  rw [List.getD_eq_getElem?_getD, List.getD_eq_getElem?_getD, List.getElem?_take_of_lt inside]
  by_cases there : i < words.length
  · rw [List.getElem?_append_left there]
  · have past : words.length ≤ i := by omega
    rw [List.getElem?_append_right past, List.getElem?_eq_none past, List.getElem?_replicate]
    split <;> rfl

/-! ### Calls by their buffers -/

/-- What is called with arguments. -/
inductive Callee : Type → Type where
  | constructor (className signature : String) : Callee Handle
  | method (target : Call.Target) (className name signature : String) (requested : ValueKind) :
      Callee Word

namespace Callee

/-- The call with a buffer of words. -/
def on : Callee α → List Word → Operation α
  | constructor className signature, words => .create className signature words
  | method target className name signature requested, words =>
    .call target className name signature requested words

def key : Callee α → MemberKey
  | constructor className signature => ⟨className, Call.constructorName, signature, .constructor⟩
  | method target className name signature _ => ⟨className, name, signature, target.methodKind⟩

def target : Callee α → Call.Target
  | constructor .. => .static
  | method target .. => target

/-- Whether the declared result suits the call. -/
def suits : Callee α → ValueKind → Bool
  | constructor .., result => result == .void
  | method _ _ _ _ requested, result => requested.accepts result

variable (F : Foreign P (Exec P)) (c : Callee α) (d : MethodDescriptor) (s : State P)

/-- Whether the call comes to its arguments: it is not refused, and its look-ups succeed. -/
def reaches : Bool :=
  c.suits d.result && match ((Call.reachField F c.target c.key).run s).1 with
    | .value (.ok _) => true
    | _ => false

/-- What the call remarks of the number of its words. -/
def remark (words : List Word) : List Diagnostic :=
  if c.reaches F d s then countRemark d.params.length words.length else []

variable {F c d s} {words words' : List Word}

theorem remark_of_reached {found : Receiver P.Object P.Class} {member : P.Member} {t : State P}
    (suits : c.suits d.result = true) (reached : Call.Reached F c.target c.key s found member t)
    (words : List Word) : c.remark F d s words = countRemark d.params.length words.length := by
  have there : c.reaches F d s = true := by
    rw [reaches, suits, reached]
    rfl
  rw [remark, if_pos there]

theorem remark_of_unreached
    (unreached : ∀ found member t, ¬ Call.Reached F c.target c.key s found member t)
    (words : List Word) : c.remark F d s words = [] := by
  have away : ¬ c.reaches F d s = true := by
    intro there
    rcases ran : (Call.reachField F c.target c.key).run s with ⟨(e | ⟨found, member⟩) | m | w, t⟩
    · simp [reaches, ran] at there
    · exact unreached found member t ran
    · simp [reaches, ran] at there
    · simp [reaches, ran] at there
  rw [remark, if_neg away]

theorem remark_of_unsuited (unsuited : c.suits d.result = false) (words : List Word) :
    c.remark F d s words = [] := by
  simp [remark, reaches, unsuited]

/-- The call fails the same way on all buffers, and gives the same then. -/
theorem run_on (c : Callee α) (words : List Word) :
    ((c.on words).op (P := P)).run F = ((c.on words).attempt F).run >>= fun
      | .ok a => pure a
      | .error e => do
        Exec.report ((c.on []).failure e)
        return (c.on []).zero := by
  have failure : (c.on words).failure = (c.on []).failure := by
    cases c with
    | constructor => rfl
    | method target => cases target <;> rfl
  have zero : (c.on words).zero = (c.on []).zero := by cases c <;> rfl
  refine (Operation.run_eq F (c.on words)).trans (bind_congr fun r => ?_)
  cases r with
  | ok a => rfl
  | error e => simp only [failure, zero]

/-- What is refused is refused whatever the words. -/
theorem meet_refused {x y : Call P α} {e : CallError} (left : x = throw e) (right : y = throw e)
    (unsuited : c.suits d.result = false) :
    Meet (Apart (c.remark F d s words) (c.remark F d s words')) x.run y.run s := by
  rw [remark_of_unsuited unsuited, remark_of_unsuited unsuited, left, right]
  exact ⟨rfl, Apart.refl s⟩

section
variable
  (steady : ∀ e e', ForeignSteady F (fun _ _ => True) (fun _ _ _ => True) (Apart e e'))
  (same : ∀ found member t, Call.Reached F c.target c.key s found member t →
    ∀ i (inside : i < d.params.length),
      t.memory.UsesSame d.params[i] (words.getD i .zero) (words'.getD i .zero))
include steady same

/-- What is not refused is the same up to the remark if it is from the arguments on. -/
theorem meet_stages (suits : c.suits d.result = true)
    {next : P.Class → Receiver P.Object P.Class → P.Member → List (HostValue P.Object) → Call P α}
    (uses : ∀ e e' type found member args, InStep (Apart e e') (next type found member args).run) :
    Meet (Apart (c.remark F d s words) (c.remark F d s words'))
      (Call.withType F c.key.className fun type => Call.withReceiver F c.target type fun found => do
        let member ← Call.ofHost (Members.member F type c.key)
        Call.withArgs F d.params words (next type found member)).run
      (Call.withType F c.key.className fun type => Call.withReceiver F c.target type fun found => do
        let member ← Call.ofHost (Members.member F type c.key)
        Call.withArgs F d.params words' (next type found member)).run s := by
  have still (unreached : ∀ found member t, ¬ Call.Reached F c.target c.key s found member t)
      (u : State P) : Apart (c.remark F d s words) (c.remark F d s words') u u := by
    rw [remark_of_unreached unreached, remark_of_unreached unreached]
    exact Apart.refl u
  have parts := steady (c.remark F d s words) (c.remark F d s words')
  apply Call.meet_reached parts.dropType parts.drop still
  intro type found member t reached
  rw [remark_of_reached suits reached, remark_of_reached suits reached]
  have around := steady (countRemark d.params.length words.length)
    (countRemark d.params.length words'.length)
  exact Call.meet_withArgs around (same found member t reached) fun args =>
    uses _ _ type found member args

/-- The attempts are the same up to the remark, whatever stops them. -/
theorem meet_attempt (parsed : Descriptor.parseMethod c.key.signature = .ok d) :
    Meet (Apart (c.remark F d s words) (c.remark F d s words'))
      ((c.on words).attempt F).run ((c.on words').attempt F).run s := by
  cases c with
  | constructor className signature =>
    replace parsed : Descriptor.parseMethod signature = .ok d := parsed
    by_cases void : d.result = .void
    · have suits : (constructor className signature).suits d.result = true := by
        simp [Callee.suits, void]
      change Meet _ (Call.construct F className signature words).run
        (Call.construct F className signature words').run s
      rw [Call.construct_stages parsed void, Call.construct_stages parsed void]
      apply meet_stages steady same suits
      intro e e' type _ member args
      have around := steady e e'
      apply Call.inStep_bind
      · exact Call.inStep_ofHost ((around.log _).bind fun _ => around.construct type member args)
      · exact fun o => Call.inStep_lift (around.store o)
    · have unsuited : (constructor className signature).suits d.result = false := by
        simp [Callee.suits, void]
      exact meet_refused (Call.construct_refused parsed void) (Call.construct_refused parsed void)
        unsuited
  | method target className name signature requested =>
    replace parsed : Descriptor.parseMethod signature = .ok d := parsed
    cases asked : Call.hostKind requested d.result with
    | ok kind =>
      have suits : (method target className name signature requested).suits d.result = true :=
        Call.accepts_of_hostKind asked
      change Meet _ (Call.invoke F target className name signature requested words).run
        (Call.invoke F target className name signature requested words').run s
      rw [Call.invoke_stages parsed asked, Call.invoke_stages parsed asked]
      apply meet_stages steady same suits
      intro e e' _ found member args
      have around := steady e e'
      apply Call.inStep_bind
      · exact Call.inStep_ofHost ((around.log _).bind fun _ => around.invoke found member kind args)
      · exact fun v => Call.inStep_lift (around.encode requested v)
    | error e =>
      have unsuited : (method target className name signature requested).suits d.result = false :=
        Bool.eq_false_iff.mpr (Call.hostKind_error asked).1
      exact meet_refused (Call.invoke_refused parsed asked) (Call.invoke_refused parsed asked)
        unsuited

end

/-- Buffers matter up to what the parameters use. Where two buffers, cut to the number of parameters
or filled up with zero words, are the same to each parameter when the arguments are read, the calls
come to the same, make the same calls on the host with the same arguments, and leave the same
behind; but each remarks a wrong number of words of its own, exactly when it comes to its arguments.
So a buffer is as good as the words that it is cut to or filled up to. -/
theorem on_alike (G : Foreign P (Act P)) (limit : Nat) (c : Callee α) {d : MethodDescriptor}
    (parsed : Descriptor.parseMethod c.key.signature = .ok d) (s : State P) :
    let F := (System.ofPrograms G).foreign limit
    let call (words : List Word) := ((c.on words).op (P := P)).run F s
    (∀ words words' : List Word,
      (∀ found member t, Call.Reached F c.target c.key s found member t →
        ∀ i (inside : i < d.params.length),
          t.memory.UsesSame d.params[i] (words.getD i .zero) (words'.getD i .zero)) →
      (call words').1 = (call words).1 ∧
        (call words').2.hostCalls = (call words).2.hostCalls ∧
        Apart (c.remark F d s words) (c.remark F d s words') (call words).2 (call words').2) ∧
    ∀ words : List Word,
      let padded := (words ++ List.replicate d.params.length Word.zero).take d.params.length
      (call padded).1 = (call words).1 ∧
        (call padded).2.hostCalls = (call words).2.hostCalls ∧
        Apart (c.remark F d s words) [] (call words).2 (call padded).2 := by
  intro F call
  have steady (e e' : List Diagnostic) :
      ForeignSteady F (fun _ _ => True) (fun _ _ _ => True) (Apart e e') :=
    Apart.foreign_steady e e' G limit
  have alike (words words' : List Word)
      (same : ∀ found member t, Call.Reached F c.target c.key s found member t →
        ∀ i (inside : i < d.params.length),
          t.memory.UsesSame d.params[i] (words.getD i .zero) (words'.getD i .zero)) :
      (call words').1 = (call words).1 ∧
        (call words').2.hostCalls = (call words).2.hostCalls ∧
        Apart (c.remark F d s words) (c.remark F d s words') (call words).2 (call words').2 := by
    have attempts := meet_attempt steady same parsed
    have parts := steady (c.remark F d s words) (c.remark F d s words')
    have runs : Meet (Apart (c.remark F d s words) (c.remark F d s words'))
        (((c.on words).op (P := P)).run F) (((c.on words').op (P := P)).run F) s := by
      rw [run_on c words, run_on c words']
      apply attempts.bind
      intro r
      cases r with
      | ok a => exact InStep.pure
      | error e => exact (parts.report _).bind fun _ => InStep.pure
    exact ⟨runs.1.symm, runs.2.hostCalls, runs.2⟩
  refine ⟨alike, ?_⟩
  intro words padded
  have length : padded.length = d.params.length := by simp [padded]
  have silent : c.remark F d s padded = [] := by simp [remark, countRemark, length]
  have whole := alike words padded fun found member t reached i inside => by
    rw [getD_padded words inside]
    exact .refl _ _ _
  rw [silent] at whole
  exact whole

/-- A boolean and a byte in one buffer, and the same in other bits with a third word behind them. -/
theorem on_alike_plain :
    let F := (System.ofPrograms Plain.idle).foreign 1
    let c := Callee.method .static "Echo" "set" "(ZB)V" .void
    let call (words : List Word) := ((c.on words).op (P := Plain.platform)).run F Plain.start
    Descriptor.parseMethod "(ZB)V" = .ok ⟨[.boolean, .byte], .void⟩ ∧
      (call [⟨2⟩, ⟨0x1FF⟩, ⟨5⟩]).1 = (call [⟨1⟩, ⟨0xFF⟩]).1 ∧
      (call [⟨2⟩, ⟨0x1FF⟩, ⟨5⟩]).2.hostCalls = (call [⟨1⟩, ⟨0xFF⟩]).2.hostCalls ∧
      Apart [] [.argumentCount 2 3] (call [⟨1⟩, ⟨0xFF⟩]).2 (call [⟨2⟩, ⟨0x1FF⟩, ⟨5⟩]).2 := by
  intro F c call
  have parsed : Descriptor.parseMethod "(ZB)V" = .ok ⟨[.boolean, .byte], .void⟩ := rfl
  have alike := (on_alike Plain.idle 1 c parsed Plain.start).1 [⟨1⟩, ⟨0xFF⟩] [⟨2⟩, ⟨0x1FF⟩, ⟨5⟩]
  have same (m : Memory) (i : Nat) (inside : i < 2) :
      m.UsesSame [ValueKind.boolean, .byte][i] (([⟨1⟩, ⟨0xFF⟩] : List Word).getD i .zero)
        (([⟨2⟩, ⟨0x1FF⟩, ⟨5⟩] : List Word).getD i .zero) := by
    match i, inside with
    | 0, _ => exact iff_of_true (by decide) (by decide)
    | 1, _ => exact (by decide : (0xFF : UInt64).toUInt8 = (0x1FF : UInt64).toUInt8)
  exact ⟨parsed, alike fun _ _ t _ => same t.memory⟩

end Callee
end HostBridge
