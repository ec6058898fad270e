import HostBridge.Descriptor

/-!
The grammar of descriptors. A descriptor has a tree behind it, and the reader accepts exactly the
texts that render a tree. The trees are read off from the left: no rendering of a type is the
beginning of another one, so a text renders at most one tree.
-/
namespace HostBridge
namespace Descriptor

/-- The character that stands for a byte while a descriptor is read. -/
def byteChar (b : UInt8) : Char :=
  Char.ofNat b.toNat

theorem byteChar_injective : Function.Injective byteChar := by
  intro a b same
  have value (c : UInt8) : (byteChar c).toNat = c.toNat := by
    have valid : c.toNat.isValidChar := .inl (Nat.lt_trans c.toNat_lt (by decide))
    rw [byteChar, Char.ofNat, dif_pos valid]
    rfl
  exact UInt8.toNat_inj.mp (by rw [← value a, ← value b, same])

/-- The kinds with a letter of their own that a slot can hold. -/
inductive Primitive where
  | boolean
  | byte
  | char
  | short
  | int
  | long
  | float
  | double
  deriving DecidableEq, Repr

namespace Primitive

def kind : Primitive → ValueKind
  | boolean => .boolean
  | byte => .byte
  | char => .char
  | short => .short
  | int => .int
  | long => .long
  | float => .float
  | double => .double

def letter : Primitive → UInt8
  | boolean => 'Z'.toUInt8
  | byte => 'B'.toUInt8
  | char => 'C'.toUInt8
  | short => 'S'.toUInt8
  | int => 'I'.toUInt8
  | long => 'J'.toUInt8
  | float => 'F'.toUInt8
  | double => 'D'.toUInt8

theorem letter_injective : Function.Injective letter := by
  intro p q same
  cases p <;> cases q <;> first | rfl | exact absurd same (by decide)

theorem kind_ne_void (p : Primitive) : p.kind ≠ .void := by
  cases p <;> decide

/-- A letter that is read is one of these, or it is the void one. -/
theorem of_read {c : Char} {kind : ValueKind} (known : ofLetter? c = some kind) :
    (c = 'V' ∧ kind = .void) ∨ ∃ p : Primitive, c = byteChar p.letter ∧ kind = p.kind := by
  unfold ofLetter? at known
  split at known <;> cases known
  · exact .inr ⟨boolean, rfl, rfl⟩
  · exact .inr ⟨byte, rfl, rfl⟩
  · exact .inr ⟨char, rfl, rfl⟩
  · exact .inr ⟨short, rfl, rfl⟩
  · exact .inr ⟨int, rfl, rfl⟩
  · exact .inr ⟨long, rfl, rfl⟩
  · exact .inr ⟨float, rfl, rfl⟩
  · exact .inr ⟨double, rfl, rfl⟩
  · exact .inl ⟨rfl, rfl⟩

/-- No letter is one of the marks of the grammar. -/
theorem letter_ne (p : Primitive) :
    byteChar p.letter ≠ 'L' ∧ byteChar p.letter ≠ '[' ∧ byteChar p.letter ≠ ')' := by
  cases p <;> decide

end Primitive

/-- A class name: some bytes, none of which ends the name. -/
structure ClassName where
  bytes : List UInt8
  nonempty : bytes ≠ []
  unended : ';'.toUInt8 ∉ bytes

@[ext] theorem ClassName.ext {a b : ClassName} (same : a.bytes = b.bytes) : a = b := by
  cases a
  cases b
  congr

/-- The type of a slot. -/
inductive SlotType where
  | primitive (p : Primitive)
  | class (name : ClassName)
  | array (element : SlotType)

namespace SlotType

def render : SlotType → List UInt8
  | primitive p => [p.letter]
  | .class name => 'L'.toUInt8 :: (name.bytes ++ [';'.toUInt8])
  | array element => '['.toUInt8 :: element.render

def kind : SlotType → ValueKind
  | primitive p => p.kind
  | .class name => if name.bytes = Utf8.encode stringClass then .string else .object
  | array _ => .array

/-- The class names in a type: none or one. -/
def names : SlotType → List ClassName
  | primitive _ => []
  | .class name => [name]
  | array element => element.names

end SlotType

/-- The type of a method: its parameters, and its result unless that is void. -/
structure MethodType where
  params : List SlotType
  result : Option SlotType

namespace MethodType

/-- What stands after the parameters. -/
def renderResult : Option SlotType → List UInt8
  | none => ['V'.toUInt8]
  | some t => t.render

def render (m : MethodType) : List UInt8 :=
  '('.toUInt8 :: (m.params.flatMap SlotType.render ++ ')'.toUInt8 :: renderResult m.result)

def resultKind : Option SlotType → ValueKind
  | none => .void
  | some t => t.kind

def kinds (m : MethodType) : MethodDescriptor :=
  ⟨m.params.map SlotType.kind, resultKind m.result⟩

def names (m : MethodType) : List ClassName :=
  m.params.flatMap SlotType.names ++ (m.result.map SlotType.names).getD []

end MethodType

/-! ### Renderings are read off from the left -/

/-- A name ends at the first mark after it. -/
theorem name_split {a b x y : List UInt8} {mark : UInt8} (ha : mark ∉ a) (hb : mark ∉ b)
    (same : a ++ mark :: x = b ++ mark :: y) : a = b ∧ x = y := by
  induction a generalizing b with
  | nil =>
    cases b with
    | nil => exact ⟨rfl, (List.cons.inj same).2⟩
    | cons c b => exact absurd (List.cons.inj same).1 fun eq => hb (eq ▸ List.mem_cons_self)
  | cons c a ih =>
    cases b with
    | nil => exact absurd (List.cons.inj same).1 fun eq => ha (eq ▸ List.mem_cons_self)
    | cons d b =>
      obtain ⟨first, others⟩ := List.cons.inj same
      obtain ⟨rest, tails⟩ :=
        ih (fun mem => ha (List.mem_cons_of_mem _ mem)) (fun mem => hb (List.mem_cons_of_mem _ mem))
          others
      exact ⟨by rw [first, rest], tails⟩

namespace SlotType

/-- No rendering of a type is the beginning of another one. -/
theorem render_split (t u : SlotType) {x y : List UInt8}
    (same : t.render ++ x = u.render ++ y) : t = u ∧ x = y := by
  induction t generalizing u with
  | primitive p =>
    cases u with
    | primitive q =>
      obtain ⟨letters, tails⟩ := List.cons.inj same
      exact ⟨congrArg primitive (Primitive.letter_injective letters), tails⟩
    | «class» name =>
      exact absurd (congrArg byteChar (List.cons.inj same).1) p.letter_ne.1
    | array element =>
      exact absurd (congrArg byteChar (List.cons.inj same).1) p.letter_ne.2.1
  | «class» name =>
    cases u with
    | primitive q =>
      exact absurd (congrArg byteChar (List.cons.inj same).1.symm) q.letter_ne.1
    | «class» other =>
      have inside : (name.bytes ++ [';'.toUInt8]) ++ x = (other.bytes ++ [';'.toUInt8]) ++ y :=
        (List.cons.inj same).2
      rw [List.append_assoc, List.append_assoc] at inside
      obtain ⟨bytes, tails⟩ := name_split name.unended other.unended inside
      exact ⟨congrArg SlotType.class (ClassName.ext bytes), tails⟩
    | array element => exact absurd (List.cons.inj same).1 (by decide)
  | array element ih =>
    cases u with
    | primitive q =>
      exact absurd (congrArg byteChar (List.cons.inj same).1.symm) q.letter_ne.2.1
    | «class» name => exact absurd (List.cons.inj same).1 (by decide)
    | array other =>
      obtain ⟨elements, tails⟩ := ih other (List.cons.inj same).2
      exact ⟨congrArg array elements, tails⟩

/-- No type begins as the mark that closes the parameters. -/
theorem render_ne_close (t : SlotType) (x y : List UInt8) :
    t.render ++ x ≠ ')'.toUInt8 :: y := by
  intro same
  cases t with
  | primitive p => exact p.letter_ne.2.2 (congrArg byteChar (List.cons.inj same).1)
  | «class» name => exact absurd (List.cons.inj same).1 (by decide)
  | array element => exact absurd (List.cons.inj same).1 (by decide)

theorem render_length_pos (t : SlotType) : 0 < t.render.length := by
  cases t <;> exact Nat.succ_pos _

theorem render_injective : Function.Injective render := by
  intro t u same
  exact (render_split t u (x := []) (y := []) (by rw [same])).1

end SlotType

namespace MethodType

theorem params_split {ts us : List SlotType} {x y : List UInt8}
    (same : ts.flatMap SlotType.render ++ ')'.toUInt8 :: x =
      us.flatMap SlotType.render ++ ')'.toUInt8 :: y) : ts = us ∧ x = y := by
  induction ts generalizing us with
  | nil =>
    cases us with
    | nil => exact ⟨rfl, (List.cons.inj same).2⟩
    | cons u us =>
      rw [List.flatMap_cons, List.append_assoc] at same
      exact absurd same.symm (u.render_ne_close _ _)
  | cons t ts ih =>
    rw [List.flatMap_cons, List.append_assoc] at same
    cases us with
    | nil => exact absurd same (t.render_ne_close _ _)
    | cons u us =>
      rw [List.flatMap_cons, List.append_assoc] at same
      obtain ⟨first, others⟩ := t.render_split u same
      obtain ⟨rest, tails⟩ := ih others
      exact ⟨by rw [first, rest], tails⟩

theorem renderResult_injective : Function.Injective renderResult := by
  have void (t : SlotType) : renderResult (some t) ≠ ['V'.toUInt8] := by
    intro same
    cases t with
    | primitive p => cases p <;> exact absurd same (by decide)
    | «class» name => exact absurd (List.cons.inj same).1 (by decide)
    | array element => exact absurd (List.cons.inj same).1 (by decide)
  intro r q same
  cases r with
  | none =>
    cases q with
    | none => rfl
    | some u => exact absurd same.symm (void u)
  | some t =>
    cases q with
    | none => exact absurd same (void t)
    | some u => exact congrArg some (SlotType.render_injective same)

theorem render_injective : Function.Injective render := by
  intro m n same
  obtain ⟨params, results⟩ := params_split (List.cons.inj same).2
  cases m
  cases n
  exact congr (congrArg mk params) (renderResult_injective results)

end MethodType

/-! ### The machine on a rendering -/

/-- The machine on bytes. -/
def read (pos : Nat) (stage : Stage) (bytes : List UInt8) :
    Except DescriptorError MethodDescriptor :=
  run pos stage (bytes.map byteChar)

theorem read_cons {pos : Nat} {stage next : Stage} {b : UInt8} (rest : List UInt8)
    (step : stage.step pos (byteChar b) = .ok next) :
    read pos stage (b :: rest) = read (pos + 1) next rest := by
  simp only [read, List.map_cons, run, step]

/-- What an accepted byte leads to. -/
theorem read_cons_ok {pos : Nat} {stage : Stage} {b : UInt8} {rest : List UInt8}
    {d : MethodDescriptor} (accepted : read pos stage (b :: rest) = .ok d) :
    ∃ next, stage.step pos (byteChar b) = .ok next ∧ read (pos + 1) next rest = .ok d := by
  simp only [read, List.map_cons, run] at accepted
  split at accepted
  · exact ⟨_, ‹_›, accepted⟩
  · cases accepted

theorem read_complete {pos : Nat} {d e : MethodDescriptor} {rest : List UInt8} :
    read pos (.complete d) rest = .ok e ↔ rest = [] ∧ d = e := by
  cases rest with
  | nil => simp [read, run, Stage.finish]
  | cons b rest => simp [read, run, Stage.step]

/-- A name is kept, the latest byte first. -/
theorem read_name {pos start : Nat} {goal : Goal} {array : Bool} {seen : List Char}
    {name : List UInt8} (rest : List UInt8) (unended : ';'.toUInt8 ∉ name) :
    read pos (.inName goal array start seen) (name ++ rest) =
      read (pos + name.length) (.inName goal array start ((name.map byteChar).reverse ++ seen))
        rest := by
  induction name generalizing pos seen with
  | nil => rfl
  | cons b name ih =>
    have going : byteChar b ≠ ';' := fun same =>
      unended (@byteChar_injective b ';'.toUInt8 same ▸ List.mem_cons_self)
    have step : Stage.step pos (byteChar b) (.inName goal array start seen) =
        .ok (.inName goal array start (byteChar b :: seen)) := by
      simp only [Stage.step, if_neg going]
    rw [List.cons_append, read_cons _ step,
      ih fun mem => unended (List.mem_cons_of_mem _ mem), List.length_cons, List.map_cons,
      List.reverse_cons, List.append_assoc]
    congr 1
    omega

/-- The class of strings is known by its name. -/
theorem ofClassName_bytes (name : List UInt8) :
    ofClassName (name.map byteChar) =
      if name = Utf8.encode stringClass then .string else .object := by
  have text : stringClass.toList = (Utf8.encode stringClass).map byteChar := by decide
  simp only [ofClassName, text, List.map_inj_right fun _ _ => @byteChar_injective _ _]

/-- The machine takes a type for what it is. -/
theorem read_type (t : SlotType) (pos : Nat) (goal : Goal) (array : Bool) (rest : List UInt8) :
    read pos (.atType goal array) (t.render ++ rest) =
      read (pos + t.render.length) (goal.reached (if array then .array else t.kind)) rest := by
  induction t generalizing pos array with
  | primitive p =>
    refine read_cons rest ?_
    cases p <;> cases goal <;> cases array <;> rfl
  | «class» name =>
    have opens : Stage.step pos (byteChar 'L'.toUInt8) (.atType goal array) =
        .ok (.inName goal array pos []) := rfl
    have closes : Stage.step (pos + 1 + name.bytes.length) (byteChar ';'.toUInt8)
        (.inName goal array pos (name.bytes.map byteChar).reverse) =
        .ok (goal.reached (if array then .array else (SlotType.class name).kind)) := by
      have some : (name.bytes.map byteChar).reverse ≠ [] := by simp [name.nonempty]
      have mark : byteChar ';'.toUInt8 = ';' := rfl
      simp only [Stage.step, mark, if_true, if_neg some, List.reverse_reverse, ofClassName_bytes]
      rfl
    simp only [SlotType.render, List.cons_append, List.append_assoc, List.nil_append]
    rw [read_cons _ opens, read_name _ name.unended, List.append_nil, read_cons _ closes]
    congr 1
    simp
    omega
  | array element ih =>
    have opens : Stage.step pos (byteChar '['.toUInt8) (.atType goal array) =
        .ok (.atType goal true) := rfl
    rw [SlotType.render, List.cons_append, read_cons _ opens, ih, List.length_cons]
    cases array <;> exact congrArg (fun n => read n _ rest) (by omega)

theorem read_params (ts : List SlotType) {pos : Nat} {before : List ValueKind}
    (rest : List UInt8) :
    read pos (.atType (.param before) false) (ts.flatMap SlotType.render ++ ')'.toUInt8 :: rest) =
      read (pos + (ts.flatMap SlotType.render).length + 1)
        (.atType (.result (before.reverse ++ ts.map SlotType.kind)) false) rest := by
  induction ts generalizing pos before with
  | nil =>
    rw [List.map_nil, List.append_nil]
    exact read_cons rest rfl
  | cons t ts ih =>
    rw [List.flatMap_cons, List.append_assoc, read_type, List.length_append]
    simp only [Goal.reached]
    rw [if_neg Bool.false_ne_true, ih, List.reverse_cons, List.append_assoc, List.map_cons]
    exact congrArg (fun n => read n _ rest) (by omega)

theorem read_result (result : Option SlotType) {pos : Nat} {params : List ValueKind} :
    read pos (.atType (.result params) false) (MethodType.renderResult result) =
      .ok ⟨params, MethodType.resultKind result⟩ := by
  cases result with
  | none => rfl
  | some t =>
    have whole := read_type t pos (.result params) false []
    rw [List.append_nil] at whole
    exact whole

/-! ### Renderings from accepted texts -/

theorem Goal.eq_result {goal : Goal} (allows : goal.allowsVoid = true) :
    ∃ params, goal = .result params := by
  cases goal with
  | param before => cases allows
  | result params => exact ⟨params, rfl⟩
  | field => cases allows

/-- What a byte accepted before a type is. -/
theorem step_atType {pos : Nat} {b : UInt8} {goal : Goal} {array : Bool} {next : Stage}
    (step : Stage.step pos (byteChar b) (.atType goal array) = .ok next) :
    (b = 'L'.toUInt8 ∧ next = .inName goal array pos []) ∨
    (b = '['.toUInt8 ∧ next = .atType goal true) ∨
    (b = ')'.toUInt8 ∧ array = false ∧
      ∃ before, goal = .param before ∧ next = .atType (.result before.reverse) false) ∨
    (b = 'V'.toUInt8 ∧ array = false ∧
      ∃ params, goal = .result params ∧ next = goal.reached .void) ∨
    ∃ p : Primitive, b = p.letter ∧ next = goal.reached (if array then .array else p.kind) := by
  have byte {c : UInt8} (same : byteChar b = byteChar c) : b = c := byteChar_injective same
  simp only [Stage.step] at step
  split at step
  · rename_i name
    cases step
    exact .inl ⟨byte name, rfl⟩
  split at step
  · rename_i inside
    cases step
    exact .inr (.inl ⟨byte inside, rfl⟩)
  split at step
  · rename_i before close
    cases step
    exact .inr (.inr (.inl ⟨byte close, rfl, before, rfl, rfl⟩))
  split at step
  · cases step
  · rename_i void
    split at step
    · cases step
    rename_i allowed
    cases step
    have letter : byteChar b = 'V' := by
      rcases Primitive.of_read void with ⟨same, -⟩ | ⟨p, -, same⟩
      · exact same
      · exact absurd same.symm p.kind_ne_void
    rw [Bool.or_eq_true, not_or, Bool.not_eq_true, Bool.not_eq_true', Bool.not_eq_false] at allowed
    obtain ⟨params, rfl⟩ := Goal.eq_result allowed.2
    exact .inr (.inr (.inr (.inl ⟨byte letter, allowed.1, params, rfl, rfl⟩)))
  · rename_i kind notVoid known
    cases step
    rcases Primitive.of_read known with ⟨-, void⟩ | ⟨p, letter, rfl⟩
    · exact absurd void notVoid
    · exact .inr (.inr (.inr (.inr ⟨p, byte letter, rfl⟩)))

/-- A name ends: some bytes without the mark, then the mark. -/
theorem name_of_read {pos start : Nat} {goal : Goal} {array : Bool} {seen : List Char}
    {bytes : List UInt8} {d : MethodDescriptor}
    (accepted : read pos (.inName goal array start seen) bytes = .ok d) :
    ∃ name rest next, bytes = name ++ ';'.toUInt8 :: rest ∧ ';'.toUInt8 ∉ name ∧
      seen.reverse ++ name.map byteChar ≠ [] ∧
      read next (goal.reached
        (if array then .array else ofClassName (seen.reverse ++ name.map byteChar))) rest =
          .ok d := by
  induction bytes generalizing pos seen with
  | nil => cases accepted
  | cons b bytes ih =>
    obtain ⟨next, step, accepted⟩ := read_cons_ok accepted
    simp only [Stage.step] at step
    split at step
    · rename_i closes
      split at step
      · cases step
      · rename_i some
        cases step
        refine ⟨[], bytes, pos + 1, ?_, List.not_mem_nil, by simpa using some,
          by simpa using accepted⟩
        rw [List.nil_append, @byteChar_injective b ';'.toUInt8 closes]
    · rename_i going
      cases step
      obtain ⟨name, rest, last, bytes_eq, unended, some, accepted⟩ := ih accepted
      rw [List.reverse_cons, List.append_assoc, List.singleton_append] at some accepted
      refine ⟨b :: name, rest, last, by rw [bytes_eq, List.cons_append], ?_, some, accepted⟩
      intro mem
      rcases List.mem_cons.mp mem with same | mem
      · exact going (congrArg byteChar same.symm)
      · exact unended mem

/-- What accepted bytes before a type begin with: a type, the mark that closes the parameters, or
the letter of a void result. -/
inductive Begins (d : MethodDescriptor) : Goal → Bool → List UInt8 → Prop where
  | type {goal : Goal} {array : Bool} {rest : List UInt8} {next : Nat} (t : SlotType)
      (after : read next (goal.reached (if array then .array else t.kind)) rest = .ok d) :
      Begins d goal array (t.render ++ rest)
  | close {before : List ValueKind} {rest : List UInt8} {next : Nat}
      (after : read next (.atType (.result before.reverse) false) rest = .ok d) :
      Begins d (.param before) false (')'.toUInt8 :: rest)
  | void {params : List ValueKind} {rest : List UInt8} {next : Nat}
      (after : read next (Goal.reached .void (.result params)) rest = .ok d) :
      Begins d (.result params) false ('V'.toUInt8 :: rest)

theorem begins_of_read {pos : Nat} {goal : Goal} {array : Bool} {bytes : List UInt8}
    {d : MethodDescriptor} (accepted : read pos (.atType goal array) bytes = .ok d) :
    Begins d goal array bytes := by
  induction bytes generalizing pos array with
  | nil => cases goal <;> cases array <;> cases accepted
  | cons b bytes ih =>
    obtain ⟨next, step, accepted⟩ := read_cons_ok accepted
    obtain ⟨rfl, rfl⟩ | ⟨rfl, rfl⟩ | ⟨rfl, rfl, before, rfl, rfl⟩ | ⟨rfl, rfl, params, rfl, rfl⟩ |
      ⟨p, rfl, rfl⟩ := step_atType step
    · obtain ⟨name, rest, last, rfl, unended, some, accepted⟩ := name_of_read accepted
      have named : name ≠ [] := by
        rintro rfl
        exact some rfl
      rw [List.reverse_nil, List.nil_append, ofClassName_bytes] at accepted
      have begins := Begins.type (.class ⟨name, named, unended⟩) accepted
      simpa only [SlotType.render, List.cons_append, List.append_assoc, List.nil_append]
        using begins
    · -- An array is of what follows, so its element was read for the same goal.
      cases ih accepted with
      | type t after =>
        have kind : (if array then .array else (SlotType.array t).kind) = ValueKind.array := by
          cases array <;> rfl
        rw [if_pos rfl, ← kind] at after
        exact .type (.array t) after
    · exact .close accepted
    · exact .void accepted
    · exact .type (.primitive p) accepted

theorem params_of_read {pos : Nat} {before : List ValueKind} {bytes : List UInt8}
    {d : MethodDescriptor} (accepted : read pos (.atType (.param before) false) bytes = .ok d) :
    ∃ (ts : List SlotType) (rest : List UInt8) (next : Nat),
      bytes = ts.flatMap SlotType.render ++ ')'.toUInt8 :: rest ∧
      read next (.atType (.result (before.reverse ++ ts.map SlotType.kind)) false) rest =
        .ok d := by
  induction size : bytes.length using Nat.strongRecOn generalizing pos before bytes with
  | ind n ih =>
    cases begins_of_read accepted with
    | type t after =>
      rename_i tail _
      have shorter : tail.length < n := by
        have := t.render_length_pos
        rw [List.length_append] at size
        omega
      obtain ⟨ts, rest, next, rfl, following⟩ := ih tail.length shorter after rfl
      refine ⟨t :: ts, rest, next, by rw [List.flatMap_cons, List.append_assoc], ?_⟩
      rw [List.reverse_cons, List.append_assoc] at following
      exact following
    | close after => exact ⟨[], _, _, rfl, by rwa [List.map_nil, List.append_nil]⟩

theorem result_of_read {pos : Nat} {params : List ValueKind} {bytes : List UInt8}
    {d : MethodDescriptor} (accepted : read pos (.atType (.result params) false) bytes = .ok d) :
    ∃ result, bytes = MethodType.renderResult result ∧
      d = ⟨params, MethodType.resultKind result⟩ := by
  cases begins_of_read accepted with
  | type t after =>
    obtain ⟨rfl, rfl⟩ := read_complete.mp after
    exact ⟨some t, List.append_nil _, rfl⟩
  | void after =>
    obtain ⟨rfl, rfl⟩ := read_complete.mp after
    exact ⟨none, rfl, rfl⟩

/-! ### The readers -/

theorem parseMethod_read (s : String) (d : MethodDescriptor) :
    parseMethod s = .ok d ↔ ∃ rest, Utf8.encode s = '('.toUInt8 :: rest ∧
      read 1 (.atType (.param []) false) rest = .ok d := by
  have bytes : latin1 s = (Utf8.encode s).map byteChar := rfl
  rw [parseMethod, bytes]
  cases Utf8.encode s with
  | nil => simp
  | cons b rest =>
    rw [List.map_cons]
    split
    · contradiction
    · rename_i opens
      obtain ⟨same, rfl⟩ := List.cons.inj opens
      rw [@byteChar_injective b '('.toUInt8 same]
      simp [read]
    · rename_i other opens
      obtain ⟨rfl, rfl⟩ := List.cons.inj opens
      simp only [reduceCtorEq, false_iff]
      rintro ⟨rest, same, -⟩
      exact other (congrArg byteChar (List.cons.inj same).1)

theorem parseField_read (s : String) (k : ValueKind) :
    parseField s = .ok k ↔ ∃ d : MethodDescriptor, d.result = k ∧
      read 0 (.atType .field false) (Utf8.encode s) = .ok d := by
  have bytes : latin1 s = (Utf8.encode s).map byteChar := rfl
  rw [parseField, bytes]
  cases Utf8.encode s with
  | nil => simp [read, run, Stage.finish]
  | cons b rest =>
    change Except.map _ (read 0 (.atType .field false) (b :: rest)) = _ ↔ _
    cases read 0 (.atType .field false) (b :: rest) with
    | error e => simp [Except.map]
    | ok d => simp [Except.map]

/-- The method reader accepts the renderings, with the kinds of their trees. -/
theorem parseMethod_iff (s : String) (d : MethodDescriptor) :
    parseMethod s = .ok d ↔ ∃ m : MethodType, m.render = Utf8.encode s ∧ m.kinds = d := by
  rw [parseMethod_read]
  constructor
  · rintro ⟨rest, bytes, accepted⟩
    obtain ⟨params, rest, next, rfl, following⟩ := params_of_read accepted
    obtain ⟨result, rfl, rfl⟩ := result_of_read following
    exact ⟨⟨params, result⟩, bytes.symm, rfl⟩
  · rintro ⟨m, bytes, rfl⟩
    refine ⟨_, bytes.symm, ?_⟩
    rw [read_params, read_result]
    rfl

/-- The field reader accepts the renderings of one type, with its kind. -/
theorem parseField_iff (s : String) (k : ValueKind) :
    parseField s = .ok k ↔ ∃ t : SlotType, t.render = Utf8.encode s ∧ t.kind = k := by
  rw [parseField_read]
  generalize Utf8.encode s = bytes
  constructor
  · rintro ⟨d, rfl, accepted⟩
    cases begins_of_read accepted with
    | type t after =>
      obtain ⟨rfl, rfl⟩ := read_complete.mp after
      exact ⟨t, (List.append_nil _).symm, rfl⟩
  · rintro ⟨t, rfl, rfl⟩
    refine ⟨⟨[], t.kind⟩, rfl, ?_⟩
    have whole := read_type t 0 .field false []
    rw [List.append_nil] at whole
    exact whole

/-! ### Renderings that are texts -/

/-- Whether bytes are those of a text. -/
def IsText (bytes : List UInt8) : Prop :=
  ∃ s, Utf8.encode s = bytes

namespace IsText

theorem append {a b : List UInt8} : IsText a → IsText b → IsText (a ++ b) := by
  rintro ⟨s, rfl⟩ ⟨r, rfl⟩
  refine ⟨String.ofList (s.toList ++ r.toList), ?_⟩
  simp only [Utf8.encode, String.toList_ofList, List.flatMap_append]

/-- A character of one byte beside a text. -/
theorem cons {c : Char} {bytes : List UInt8} (single : String.utf8EncodeChar c = [c.toUInt8])
    (text : IsText bytes) : IsText (c.toUInt8 :: bytes) :=
  append (a := [c.toUInt8]) ⟨String.ofList [c], by simp [Utf8.encode, single]⟩ text

theorem nil : IsText [] :=
  ⟨"", rfl⟩

theorem primitive (p : Primitive) : IsText [p.letter] := by
  cases p <;> exact cons (by decide) nil

theorem slot (t : SlotType) (names : ∀ name ∈ t.names, IsText name.bytes) : IsText t.render := by
  induction t with
  | primitive p => exact primitive p
  | «class» name =>
    exact cons (by decide) ((names name (List.mem_singleton_self _)).append (cons (by decide) nil))
  | array element ih => exact cons (by decide) (ih names)

theorem slots (ts : List SlotType) (names : ∀ name ∈ ts.flatMap SlotType.names, IsText name.bytes) :
    IsText (ts.flatMap SlotType.render) := by
  induction ts with
  | nil => exact nil
  | cons t ts ih =>
    simp only [List.flatMap_cons, List.mem_append] at names ⊢
    exact (slot t fun name mem => names name (.inl mem)).append
      (ih fun name mem => names name (.inr mem))

theorem method (m : MethodType) (names : ∀ name ∈ m.names, IsText name.bytes) :
    IsText m.render := by
  obtain ⟨params, result⟩ := m
  simp only [MethodType.names, List.mem_append] at names
  refine cons (by decide) ((slots params fun name mem => names name (.inl mem)).append
    (cons (by decide) ?_))
  cases result with
  | none => exact cons (by decide) nil
  | some t => exact slot t fun name mem => names name (.inr mem)

end IsText

/-- The readers accept the renderings of the grammar and no other text. A text renders at most one
tree, and what is read from it are the kinds of that tree, in order. Every tree whose class names
are texts has a rendering, which is accepted. -/
theorem readers_follow_grammar :
    (∀ s d, parseMethod s = .ok d ↔ ∃ m : MethodType, m.render = Utf8.encode s ∧ m.kinds = d) ∧
    (∀ s k, parseField s = .ok k ↔ ∃ t : SlotType, t.render = Utf8.encode s ∧ t.kind = k) ∧
    Function.Injective MethodType.render ∧ Function.Injective SlotType.render ∧
    (∀ m : MethodType, (∀ name ∈ m.names, IsText name.bytes) →
      ∃ s, Utf8.encode s = m.render ∧ parseMethod s = .ok m.kinds) ∧
    (∀ t : SlotType, (∀ name ∈ t.names, IsText name.bytes) →
      ∃ s, Utf8.encode s = t.render ∧ parseField s = .ok t.kind) := by
  refine ⟨parseMethod_iff, parseField_iff, MethodType.render_injective, SlotType.render_injective,
    fun m names => ?_, fun t names => ?_⟩
  · obtain ⟨s, text⟩ := IsText.method m names
    exact ⟨s, text, (parseMethod_iff s _).mpr ⟨m, text.symm, rfl⟩⟩
  · obtain ⟨s, text⟩ := IsText.slot t names
    exact ⟨s, text, (parseField_iff s _).mpr ⟨t, text.symm, rfl⟩⟩

/-- The class of strings, by its name. -/
def stringName : ClassName :=
  ⟨Utf8.encode stringClass, by decide, by decide⟩

/-- A method of a text and of a table of numbers that gives nothing. -/
theorem text_and_table_read :
    ∃ s, Utf8.encode s =
        MethodType.render ⟨[.class stringName, .array (.array (.primitive .int))], none⟩ ∧
      parseMethod s = .ok ⟨[.string, .array], .void⟩ := by
  have named : ∀ name ∈
      MethodType.names ⟨[.class stringName, .array (.array (.primitive .int))], none⟩,
      IsText name.bytes := by
    intro name mem
    rw [List.mem_singleton.mp mem]
    exact ⟨stringClass, rfl⟩
  obtain ⟨s, text, accepted⟩ := readers_follow_grammar.2.2.2.2.1 _ named
  exact ⟨s, text, accepted⟩

end Descriptor
end HostBridge
