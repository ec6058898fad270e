import HostBridge.Proofs.DescriptorGrammar
import Mathlib.Data.List.Basic
import Mathlib.Order.Bounds.Basic

/-!
What the errors of the readers say. The machine stops at the first byte after which no descriptor
goes on: up to that byte what was read can be completed, and from there on nothing can. A text that
can still be completed is refused only for ending too early.
-/
namespace HostBridge

namespace Utf8

/-- A byte below 128 in the encoding of a character is the whole of it. -/
theorem encodeChar_ascii {c : Char} {b : UInt8} (mem : b ∈ String.utf8EncodeChar c)
    (ascii : b < 0x80) : String.utf8EncodeChar c = [b] := by
  have below : b.toNat < 128 := UInt8.lt_iff_toNat_lt.mp ascii
  have high {n : Nat} (small : n < 256) (large : 128 ≤ n) : b ≠ UInt8.ofNat n := by
    intro same
    have value := congrArg UInt8.toNat same
    rw [UInt8.toNat_ofNat', Nat.mod_eq_of_lt small] at value
    omega
  unfold String.utf8EncodeChar at mem ⊢
  generalize c.val.toNat = v at mem ⊢
  dsimp only at mem ⊢
  split at mem
  · rw [List.mem_singleton.mp mem]
    simp [*]
  · exfalso
    split at mem
    · simp only [List.mem_cons, List.not_mem_nil, or_false] at mem
      rcases mem with same | same <;> exact high (by omega) (by omega) same
    split at mem
    · simp only [List.mem_cons, List.not_mem_nil, or_false] at mem
      rcases mem with same | same | same <;> exact high (by omega) (by omega) same
    · simp only [List.mem_cons, List.not_mem_nil, or_false] at mem
      rcases mem with same | same | same | same <;> exact high (by omega) (by omega) same

/-- After a byte below 128 a character ends. -/
theorem chars_cut {cs : List Char} {before after : List UInt8} {b : UInt8}
    (bytes : cs.flatMap String.utf8EncodeChar = before ++ b :: after) (ascii : b < 0x80) :
    ∃ ds : List Char, ds.flatMap String.utf8EncodeChar = before ++ [b] := by
  induction cs generalizing before with
  | nil => simp at bytes
  | cons c cs ih =>
    rw [List.flatMap_cons, List.append_eq_append_iff] at bytes
    obtain ⟨later, rfl, others⟩ | ⟨own, first, others⟩ := bytes
    · obtain ⟨ds, cut⟩ := ih others
      refine ⟨c :: ds, ?_⟩
      rw [List.flatMap_cons, cut, List.append_assoc]
    · cases own with
      | nil =>
        obtain ⟨ds, cut⟩ := @ih [] others.symm
        refine ⟨c :: ds, ?_⟩
        rw [List.flatMap_cons, cut, first, List.append_nil, List.nil_append]
      | cons d own =>
        obtain ⟨rfl, -⟩ := List.cons.inj others
        have whole := encodeChar_ascii (c := c) (by rw [first]; simp) ascii
        have alone : before = [] := by
          have lengths := congrArg List.length (first.symm.trans whole)
          rw [List.length_append, List.length_cons, List.length_singleton] at lengths
          exact List.length_eq_zero_iff.mp (by omega)
        refine ⟨[c], ?_⟩
        rw [List.flatMap_singleton, whole, alone, List.nil_append]

end Utf8

namespace DescriptorError

/-- The byte that an error blames, where it blames one. -/
def position? : DescriptorError → Option Nat
  | .missingOpenParen => some 0
  | .unexpectedChar _ p | .voidParameter p | .trailing p => some p
  | .empty | .unterminatedParams | .missingReturn | .unterminatedClass _ => none

/-- The error is that the bytes end too early. Of a class that does not end, the position is that of
the first `L` after which there is no mark. -/
def Unfinished (bytes : List UInt8) : DescriptorError → Prop
  | .empty => bytes = []
  | .unterminatedParams | .missingReturn => True
  | .unterminatedClass p =>
    IsLeast {i | bytes[i]? = some 'L'.toUInt8 ∧ ';'.toUInt8 ∉ bytes.drop i} p
  | .missingOpenParen | .unexpectedChar _ _ | .voidParameter _ | .trailing _ => False

end DescriptorError

namespace Descriptor

/-- Whether a reader takes bytes: they are those of a text that it accepts. -/
def Accepted {α : Type} (parse : String → Except DescriptorError α) (bytes : List UInt8) : Prop :=
  ∃ s d, Utf8.encode s = bytes ∧ parse s = .ok d

/-- Whether bytes are the beginning of valid ones. -/
def Viable (valid : List UInt8 → Prop) (bytes : List UInt8) : Prop :=
  ∃ whole, bytes <+: whole ∧ valid whole

theorem Viable.mono {valid : List UInt8 → Prop} {a b : List UInt8} (viable : Viable valid b)
    (start : a <+: b) : Viable valid a := by
  obtain ⟨whole, begins, accepted⟩ := viable
  exact ⟨whole, start.trans begins, accepted⟩

/-- The error blames the byte at `p`: the bytes before it begin valid ones, and with it they do not.
-/
structure Blames (valid : List UInt8 → Prop) (bytes : List UInt8) (e : DescriptorError) (p : Nat) :
    Prop where
  position : e.position? = some p
  first : IsLeast {i | i < bytes.length ∧ ¬ Viable valid (bytes.take (i + 1))} p
  found : ∀ c, e = .unexpectedChar c p → bytes[p]?.map byteChar = some c
  void : e = .voidParameter p → bytes[p]? = some 'V'.toUInt8
  trailing : e = .trailing p ↔ valid (bytes.take p)

/-- What an error says of the bytes that were refused with it. -/
structure Explains (valid : List UInt8 → Prop) (bytes : List UInt8) (e : DescriptorError) :
    Prop where
  unfinished : Viable valid bytes → e.Unfinished bytes
  blamed : ¬ Viable valid bytes → ∃ p, Blames valid bytes e p

/-! ### How the machine gets to a stage -/

/-- What a reader looks for: the bytes that it begins with, then a type for `goal`. -/
structure Shape where
  opening : List UInt8
  goal : Goal
  text : IsText opening
  ascii : ∀ b ∈ opening, b < 0x80
  unnamed : 'L'.toUInt8 ∉ opening

namespace Shape

def method : Shape where
  opening := ['('.toUInt8]
  goal := .param []
  text := ⟨"(", rfl⟩
  ascii := by
    intro b mem
    rw [List.mem_singleton.mp mem]
    decide
  unnamed := by decide

def field : Shape where
  opening := []
  goal := .field
  text := .nil
  ascii := nofun
  unnamed := by decide

/-- The texts that the machine accepts. -/
def Accepts (shape : Shape) (bytes : List UInt8) : Prop :=
  IsText bytes ∧ ∃ rest d, bytes = shape.opening ++ rest ∧
    read shape.opening.length (.atType shape.goal false) rest = .ok d

/-- The machine stands at a stage after it took all of some bytes. -/
inductive Reaches (shape : Shape) : List UInt8 → Stage → Prop where
  | start : Reaches shape shape.opening (.atType shape.goal false)
  | next {bytes : List UInt8} {stage after : Stage} {b : UInt8}
      (reached : Reaches shape bytes stage)
      (step : stage.step bytes.length (byteChar b) = .ok after) :
      Reaches shape (bytes ++ [b]) after

variable {shape : Shape} {bytes rest : List UInt8} {stage : Stage} {e : DescriptorError}

/-- From then on it depends on the stage alone what is accepted. -/
theorem Reaches.accepts_append (reached : shape.Reaches bytes stage) :
    shape.Accepts (bytes ++ rest) ↔
      IsText (bytes ++ rest) ∧ ∃ d, read bytes.length stage rest = .ok d := by
  apply and_congr_right'
  induction reached generalizing rest with
  | start =>
    constructor
    · rintro ⟨own, d, same, accepted⟩
      rw [List.append_cancel_left same]
      exact ⟨d, accepted⟩
    · rintro ⟨d, accepted⟩
      exact ⟨rest, d, rfl, accepted⟩
  | next reached step ih =>
    rw [List.append_assoc, ih, List.singleton_append, read_cons rest step, List.length_append]
    rfl

/-- How a run fails: the text ends at a stage that is not the last, or a stage refuses a byte. -/
inductive Fails (shape : Shape) (bytes : List UInt8) (e : DescriptorError) : Prop where
  | ended {stage : Stage} (reached : shape.Reaches bytes stage) (finish : stage.finish = .error e)
  | refused {before after : List UInt8} {b : UInt8} {stage : Stage}
      (split : bytes = before ++ b :: after) (reached : shape.Reaches before stage)
      (step : stage.step before.length (byteChar b) = .error e)

theorem Reaches.fails (reached : shape.Reaches bytes stage)
    (failed : read bytes.length stage rest = .error e) : shape.Fails (bytes ++ rest) e := by
  induction rest generalizing bytes stage with
  | nil =>
    rw [List.append_nil]
    exact .ended reached failed
  | cons b rest ih =>
    cases step : stage.step bytes.length (byteChar b) with
    | error refusal =>
      simp only [read, List.map_cons, run, step, Except.error.injEq] at failed
      rw [failed] at step
      exact .refused rfl reached step
    | ok after =>
      rw [read_cons rest step] at failed
      have later := ih (reached.next step) (by rwa [List.length_append])
      rwa [List.append_assoc] at later

end Shape

/-! ### Every stage can be completed -/

/-- What completes a text once a type was read for the goal. -/
def Goal.closing : Goal → List UInt8
  | .param _ => [')'.toUInt8, 'V'.toUInt8]
  | .result _ | .field => []

/-- What completes a text from a stage on. -/
def Stage.closing : Stage → List UInt8
  | .complete _ => []
  | .atType goal _ => 'I'.toUInt8 :: goal.closing
  | .inName goal _ _ _ => 'x'.toUInt8 :: ';'.toUInt8 :: goal.closing

theorem Goal.read_closing (goal : Goal) (kind : ValueKind) (pos : Nat) :
    ∃ d, read pos (goal.reached kind) goal.closing = .ok d := by
  cases goal <;> exact ⟨_, rfl⟩

theorem Stage.read_closing (stage : Stage) (pos : Nat) :
    ∃ d, read pos stage stage.closing = .ok d := by
  cases stage with
  | complete d => exact ⟨d, rfl⟩
  | atType goal array =>
    have taken : Stage.step pos (byteChar 'I'.toUInt8) (.atType goal array) =
        .ok (goal.reached (if array then .array else .int)) := by
      cases goal <;> cases array <;> rfl
    rw [closing, read_cons _ taken]
    exact goal.read_closing _ _
  | inName goal array start seen =>
    have taken : Stage.step pos (byteChar 'x'.toUInt8) (.inName goal array start seen) =
        .ok (.inName goal array start ('x' :: seen)) := rfl
    have closed : Stage.step (pos + 1) (byteChar ';'.toUInt8)
        (.inName goal array start ('x' :: seen)) =
        .ok (goal.reached (if array then .array else ofClassName ('x' :: seen).reverse)) := rfl
    rw [closing, read_cons _ taken, read_cons _ closed]
    exact goal.read_closing _ _

theorem Goal.closing_text (goal : Goal) : IsText goal.closing := by
  cases goal with
  | param before => exact .cons (by decide) (.cons (by decide) .nil)
  | result params => exact .nil
  | field => exact .nil

theorem Stage.closing_text (stage : Stage) : IsText stage.closing := by
  cases stage with
  | complete d => exact .nil
  | atType goal array => exact .cons (by decide) goal.closing_text
  | inName goal array start seen => exact .cons (by decide) (.cons (by decide) goal.closing_text)

/-! ### Texts that are cut -/

/-- Whether the machine is behind the first byte of a class name. -/
def Stage.InsideName : Stage → Prop
  | .inName _ _ _ seen => seen ≠ []
  | .atType _ _ | .complete _ => False

/-- A text can be cut after a byte below 128. -/
theorem IsText.cut {before after : List UInt8} (text : IsText (before ++ after))
    (ascii : ∀ b, before.getLast? = some b → b < 0x80) : IsText before := by
  obtain ⟨s, bytes⟩ := text
  obtain rfl | ⟨front, b, rfl⟩ := before.eq_nil_or_concat'
  · exact .nil
  · rw [List.append_assoc, List.singleton_append] at bytes
    obtain ⟨cs, cut⟩ := Utf8.chars_cut bytes (ascii b List.getLast?_concat)
    exact ⟨String.ofList cs, by rw [Utf8.encode, String.toList_ofList, cut]⟩

/-- Outside of a class name the machine took bytes below 128 only. -/
theorem Shape.Reaches.last_ascii {shape : Shape} {bytes : List UInt8} {stage : Stage}
    (reached : shape.Reaches bytes stage) (outside : ¬ stage.InsideName) {b : UInt8}
    (last : bytes.getLast? = some b) : b < 0x80 := by
  cases reached with
  | start => exact shape.ascii b (List.mem_of_getLast? last)
  | next reached step =>
    rename_i bytes stage c
    rw [List.getLast?_concat] at last
    cases last
    cases stage with
    | complete d => cases step
    | inName goal array start seen =>
      simp only [Stage.step] at step
      split at step
      · rename_i closes
        rw [@byteChar_injective b ';'.toUInt8 closes]
        decide
      · cases step
        exact absurd (List.cons_ne_nil _ _) outside
    | atType goal array =>
      obtain ⟨rfl, -⟩ | ⟨rfl, -⟩ | ⟨rfl, -⟩ | ⟨rfl, -⟩ | ⟨p, rfl, -⟩ := step_atType step
      · decide
      · decide
      · decide
      · decide
      · cases p <;> decide

/-! ### Names that do not end -/

/-- After every `L` in the bytes there is a mark. -/
def NamesEnd (bytes : List UInt8) : Prop :=
  ∀ i, bytes[i]? = some 'L'.toUInt8 → ';'.toUInt8 ∈ bytes.drop i

theorem NamesEnd.of_not_mem {bytes : List UInt8} (unnamed : 'L'.toUInt8 ∉ bytes) :
    NamesEnd bytes := by
  intro i at_i
  exact absurd (List.mem_of_getElem? at_i) unnamed

/-- After a mark at the end all names have ended. -/
theorem NamesEnd.mark (bytes : List UInt8) : NamesEnd (bytes ++ [';'.toUInt8]) := by
  intro i at_i
  have inside : i < (bytes ++ [';'.toUInt8]).length := by
    by_contra outside
    rw [List.getElem?_eq_none (by omega)] at at_i
    cases at_i
  rw [List.length_append, List.length_singleton] at inside
  rw [List.drop_append_of_le_length (by omega)]
  exact List.mem_append_right _ (List.mem_singleton_self _)

theorem NamesEnd.append {bytes : List UInt8} {b : UInt8} (ended : NamesEnd bytes)
    (other : b ≠ 'L'.toUInt8) : NamesEnd (bytes ++ [b]) := by
  intro i at_i
  rcases Nat.lt_or_ge i bytes.length with inside | beyond
  · rw [List.getElem?_append_left inside] at at_i
    rw [List.drop_append_of_le_length inside.le]
    exact List.mem_append_left _ (ended i at_i)
  · rw [List.getElem?_append_right beyond] at at_i
    have same := List.mem_of_getElem? at_i
    exact absurd (List.mem_singleton.mp same).symm other

/-- Inside a name that began at `start` no mark came since, and all names before it have ended. -/
def Stage.Names (bytes : List UInt8) : Stage → Prop
  | .inName _ _ start _ => ∃ before name, bytes = before ++ 'L'.toUInt8 :: name ∧
      before.length = start ∧ ';'.toUInt8 ∉ name ∧ NamesEnd before
  | .atType _ _ | .complete _ => NamesEnd bytes

theorem Goal.reached_names {bytes : List UInt8} (goal : Goal) (kind : ValueKind)
    (ended : NamesEnd bytes) : (goal.reached kind).Names bytes := by
  cases goal <;> exact ended

theorem Shape.Reaches.names {shape : Shape} {bytes : List UInt8} {stage : Stage}
    (reached : shape.Reaches bytes stage) : stage.Names bytes := by
  induction reached with
  | start => exact .of_not_mem shape.unnamed
  | next reached step ih =>
    rename_i bytes stage after b
    cases stage with
    | complete d => cases step
    | inName goal array start seen =>
      obtain ⟨before, name, rfl, begun, unended, ended⟩ := ih
      simp only [Stage.step] at step
      split at step
      · rename_i closes
        split at step
        · cases step
        cases step
        rw [@byteChar_injective b ';'.toUInt8 closes]
        exact Goal.reached_names _ _ (.mark _)
      · rename_i going
        cases step
        refine ⟨before, name ++ [b], by simp, begun, ?_, ended⟩
        intro mem
        rcases List.mem_append.mp mem with mem | mem
        · exact unended mem
        · exact going (congrArg byteChar (List.mem_singleton.mp mem).symm)
    | atType goal array =>
      obtain ⟨rfl, rfl⟩ | ⟨rfl, rfl⟩ | ⟨rfl, -, before, rfl, rfl⟩ | ⟨rfl, -, params, rfl, rfl⟩ |
        ⟨p, rfl, rfl⟩ := step_atType step
      · exact ⟨bytes, [], rfl, rfl, List.not_mem_nil, ih⟩
      · exact ih.append (by decide)
      · exact ih.append (by decide)
      · exact Goal.reached_names _ _ (ih.append (by decide))
      · refine Goal.reached_names _ _ (ih.append ?_)
        intro same
        exact p.letter_ne.1 (congrArg byteChar same)

/-- The name in which a text ends is the first one that does not end. -/
theorem Stage.Names.isLeast {bytes : List UInt8} {goal : Goal} {array : Bool} {start : Nat}
    {seen : List Char} (names : (Stage.inName goal array start seen).Names bytes) :
    IsLeast {i | bytes[i]? = some 'L'.toUInt8 ∧ ';'.toUInt8 ∉ bytes.drop i} start := by
  obtain ⟨before, name, rfl, rfl, unended, ended⟩ := names
  constructor
  · constructor
    · rw [List.getElem?_append_right le_rfl, Nat.sub_self, List.getElem?_cons_zero]
    · rw [List.drop_left]
      intro mem
      rcases List.mem_cons.mp mem with same | mem
      · exact absurd same (by decide)
      · exact unended mem
  · rintro i ⟨at_i, open_i⟩
    by_contra inside
    rw [not_le] at inside
    rw [List.getElem?_append_left inside] at at_i
    rw [List.drop_append_of_le_length inside.le] at open_i
    exact open_i (List.mem_append_left _ (ended i at_i))

/-! ### What the machine answers -/

theorem finish_error {stage : Stage} {e : DescriptorError} {bytes : List UInt8}
    (finish : stage.finish = .error e) (names : stage.Names bytes) : e.Unfinished bytes := by
  cases stage with
  | complete d => cases finish
  | inName goal array start seen =>
    cases finish
    exact names.isLeast
  | atType goal array =>
    cases goal <;> cases array <;> cases finish <;> trivial

/-- What a byte is refused for. -/
inductive Refusal (pos : Nat) (b : UInt8) : Stage → DescriptorError → Prop where
  | unexpected {stage : Stage} (outside : ¬ stage.InsideName)
      (going : ∀ d, stage.finish ≠ .ok d) :
      Refusal pos b stage (.unexpectedChar (byteChar b) pos)
  | void {stage : Stage} (outside : ¬ stage.InsideName) (going : ∀ d, stage.finish ≠ .ok d)
      (letter : b = 'V'.toUInt8) : Refusal pos b stage (.voidParameter pos)
  | trailing (d : MethodDescriptor) : Refusal pos b (.complete d) (.trailing pos)

theorem step_error {pos : Nat} {b : UInt8} {stage : Stage} {e : DescriptorError}
    (step : stage.step pos (byteChar b) = .error e) : Refusal pos b stage e := by
  cases stage with
  | complete d =>
    cases step
    exact .trailing d
  | inName goal array start seen =>
    simp only [Stage.step] at step
    split at step
    · rename_i closes
      split at step
      · rename_i none
        cases step
        rw [← closes]
        exact .unexpected (not_not_intro none) fun d => by simp [Stage.finish]
      · cases step
    · cases step
  | atType goal array =>
    have outside : ¬(Stage.atType goal array).InsideName := not_false
    have going (d : MethodDescriptor) : (Stage.atType goal array).finish ≠ .ok d := by
      cases goal <;> cases array <;> simp [Stage.finish]
    simp only [Stage.step] at step
    split at step
    · cases step
    split at step
    · cases step
    split at step
    · cases step
    split at step
    · cases step
      exact .unexpected outside going
    · rename_i known
      split at step
      · cases step
        refine .void outside going ?_
        rcases Primitive.of_read known with ⟨letter, -⟩ | ⟨p, -, void⟩
        · exact @byteChar_injective b 'V'.toUInt8 letter
        · exact absurd void.symm p.kind_ne_void
      · cases step
    · cases step

namespace Shape

variable {shape : Shape} {bytes : List UInt8} {stage : Stage} {e : DescriptorError}

theorem Reaches.viable (reached : shape.Reaches bytes stage) (text : IsText bytes) :
    Viable shape.Accepts bytes := by
  refine ⟨bytes ++ stage.closing, List.prefix_append _ _, reached.accepts_append.mpr ⟨?_, ?_⟩⟩
  · exact text.append stage.closing_text
  · exact stage.read_closing _

theorem Reaches.not_viable {b : UInt8} (reached : shape.Reaches bytes stage)
    (step : stage.step bytes.length (byteChar b) = .error e) :
    ¬ Viable shape.Accepts (bytes ++ [b]) := by
  rintro ⟨_, ⟨rest, rfl⟩, accepts⟩
  rw [List.append_assoc] at accepts
  obtain ⟨-, d, accepted⟩ := reached.accepts_append.mp accepts
  obtain ⟨after, taken, -⟩ := read_cons_ok accepted
  rw [step] at taken
  cases taken

theorem Reaches.accepts (reached : shape.Reaches bytes stage) (text : IsText bytes) :
    shape.Accepts bytes ↔ ∃ d, stage.finish = .ok d := by
  have whole : shape.Accepts (bytes ++ []) ↔ _ := reached.accepts_append
  rw [List.append_nil] at whole
  exact whole.trans (and_iff_right text)

/-- Where a byte is refused, the error blames it. -/
theorem Reaches.blames {before after : List UInt8} {b : UInt8}
    (reached : shape.Reaches before stage) (text : IsText (before ++ b :: after))
    (step : stage.step before.length (byteChar b) = .error e) :
    Blames shape.Accepts (before ++ b :: after) e before.length := by
  have refusal := step_error step
  have outside : ¬ stage.InsideName := by
    cases refusal with
    | unexpected outside going => exact outside
    | void outside going letter => exact outside
    | trailing d => exact id
  have whole : IsText before := text.cut fun b last => reached.last_ascii outside last
  have byte : (before ++ b :: after)[before.length]? = some b := by
    rw [List.getElem?_append_right le_rfl, Nat.sub_self, List.getElem?_cons_zero]
  have upto : (before ++ b :: after).take (before.length + 1) = before ++ [b] := by
    rw [List.take_length_add_append]
    rfl
  have first : IsLeast {i | i < (before ++ b :: after).length ∧
      ¬ Viable shape.Accepts ((before ++ b :: after).take (i + 1))} before.length := by
    constructor
    · refine ⟨by simp, ?_⟩
      rw [upto]
      exact reached.not_viable step
    · rintro i ⟨-, stuck⟩
      by_contra inside
      rw [not_le] at inside
      rw [List.take_append_of_le_length inside] at stuck
      exact stuck ((reached.viable whole).mono (List.take_prefix _ _))
  have complete : shape.Accepts ((before ++ b :: after).take before.length) ↔
      ∃ d, stage.finish = .ok d := by
    rw [List.take_left]
    exact reached.accepts whole
  cases refusal with
  | unexpected _ going =>
    refine ⟨rfl, first, ?_, nofun, ⟨nofun, fun accepts => ?_⟩⟩
    · rintro c ⟨⟩
      rw [byte, Option.map_some]
    · obtain ⟨d, finish⟩ := complete.mp accepts
      exact absurd finish (going d)
  | void _ going letter =>
    refine ⟨rfl, first, nofun, fun _ => by rw [byte, letter], ⟨nofun, fun accepts => ?_⟩⟩
    obtain ⟨d, finish⟩ := complete.mp accepts
    exact absurd finish (going d)
  | trailing d => exact ⟨rfl, first, nofun, nofun, ⟨fun _ => complete.mpr ⟨d, rfl⟩, fun _ => rfl⟩⟩

/-- A failure of the machine is explained by its error. -/
theorem Fails.explains (fails : shape.Fails bytes e) (text : IsText bytes) :
    Explains shape.Accepts bytes e := by
  cases fails with
  | ended reached finish =>
    constructor
    · intro _
      exact finish_error finish reached.names
    · intro stuck
      exact absurd (reached.viable text) stuck
  | refused split reached step =>
    subst split
    constructor
    · intro viable
      exact absurd (viable.mono ⟨_, (List.append_cons _ _ _).symm⟩) (reached.not_viable step)
    · intro _
      exact ⟨_, reached.blames text step⟩

theorem viable_nil (shape : Shape) : Viable shape.Accepts [] :=
  (Reaches.start.viable shape.text).mono (List.nil_prefix)

end Shape

/-! ### The readers -/

theorem accepted_parseMethod : Accepted parseMethod = Shape.method.Accepts := by
  funext bytes
  apply propext
  constructor
  · rintro ⟨s, d, rfl, accepted⟩
    obtain ⟨rest, opens, accepted⟩ := (parseMethod_read s d).mp accepted
    exact ⟨⟨s, rfl⟩, rest, d, opens, accepted⟩
  · rintro ⟨⟨s, rfl⟩, rest, d, opens, accepted⟩
    exact ⟨s, d, rfl, (parseMethod_read s d).mpr ⟨rest, opens, accepted⟩⟩

theorem accepted_parseField : Accepted parseField = Shape.field.Accepts := by
  funext bytes
  apply propext
  constructor
  · rintro ⟨s, k, rfl, accepted⟩
    obtain ⟨d, -, accepted⟩ := (parseField_read s k).mp accepted
    exact ⟨⟨s, rfl⟩, _, d, rfl, accepted⟩
  · rintro ⟨⟨s, rfl⟩, rest, d, whole, accepted⟩
    refine ⟨s, d.result, rfl, (parseField_read s _).mpr ⟨d, rfl, ?_⟩⟩
    rw [whole]
    exact accepted

/-- Why the method reader refuses a text. -/
theorem parseMethod_error {s : String} {e : DescriptorError} (failed : parseMethod s = .error e) :
    (Utf8.encode s = [] ∧ e = .empty) ∨
    (∃ b rest, Utf8.encode s = b :: rest ∧ b ≠ '('.toUInt8 ∧ e = .missingOpenParen) ∨
    Shape.method.Fails (Utf8.encode s) e := by
  have bytes : latin1 s = (Utf8.encode s).map byteChar := rfl
  rw [parseMethod, bytes] at failed
  cases opens : Utf8.encode s with
  | nil =>
    rw [opens] at failed
    cases failed
    exact .inl ⟨rfl, rfl⟩
  | cons b rest =>
    rw [opens, List.map_cons] at failed
    split at failed
    · contradiction
    · rename_i first
      obtain ⟨same, rfl⟩ := List.cons.inj first
      rw [@byteChar_injective b '('.toUInt8 same]
      exact .inr (.inr (Shape.Reaches.start.fails failed))
    · rename_i other first
      obtain ⟨rfl, rfl⟩ := List.cons.inj first
      cases failed
      exact .inr (.inl ⟨b, rest, rfl, fun same => other (congrArg byteChar same), rfl⟩)

/-- Why the reader of fields refuses a text. -/
theorem parseField_error {s : String} {e : DescriptorError} (failed : parseField s = .error e) :
    (Utf8.encode s = [] ∧ e = .empty) ∨ Shape.field.Fails (Utf8.encode s) e := by
  have bytes : latin1 s = (Utf8.encode s).map byteChar := rfl
  rw [parseField, bytes] at failed
  cases opens : Utf8.encode s with
  | nil =>
    rw [opens] at failed
    cases failed
    exact .inl ⟨rfl, rfl⟩
  | cons b rest =>
    rw [opens] at failed
    change Except.map _ (read 0 (.atType .field false) (b :: rest)) = _ at failed
    cases taken : read 0 (.atType .field false) (b :: rest) with
    | ok d =>
      rw [taken] at failed
      cases failed
    | error refusal =>
      rw [taken] at failed
      cases failed
      exact .inr (Shape.Reaches.start.fails taken)

theorem explains_empty (shape : Shape) : Explains shape.Accepts [] .empty := by
  constructor
  · intro _
    rfl
  · intro stuck
    exact absurd shape.viable_nil stuck

/-- A text that does not open its parameters is wrong from its first byte on. -/
theorem explains_unopened {b : UInt8} {rest : List UInt8} (other : b ≠ '('.toUInt8) :
    Explains Shape.method.Accepts (b :: rest) .missingOpenParen := by
  have stuck : ¬ Viable Shape.method.Accepts [b] := by
    rintro ⟨_, ⟨after, rfl⟩, -, own, d, opens, -⟩
    exact other (List.cons.inj opens).1
  constructor
  · intro viable
    exact absurd (viable.mono (List.prefix_append [b] rest)) stuck
  · intro _
    refine ⟨0, rfl, ⟨⟨Nat.succ_pos _, stuck⟩, fun i _ => Nat.zero_le i⟩, nofun, nofun, nofun, ?_⟩
    rintro ⟨-, own, d, opens, -⟩
    cases opens

/-- The errors of both readers point at the first bad byte. A text that begins some valid one is
refused for ending too early. In any other text the error blames the first byte with which the text
begins no valid one: it names that byte, it is about a void only for the letter of void, and it is
about what trails exactly if the text before that byte is valid. -/
theorem errors_blame_first_bad_byte :
    (∀ s e, parseMethod s = .error e → Explains (Accepted parseMethod) (Utf8.encode s) e) ∧
    (∀ s e, parseField s = .error e → Explains (Accepted parseField) (Utf8.encode s) e) := by
  rw [accepted_parseMethod, accepted_parseField]
  constructor
  · intro s e failed
    have text : IsText (Utf8.encode s) := ⟨s, rfl⟩
    obtain ⟨bytes, rfl⟩ | ⟨b, rest, bytes, other, rfl⟩ | fails := parseMethod_error failed
    · rw [bytes]
      exact explains_empty _
    · rw [bytes]
      exact explains_unopened other
    · exact fails.explains text
  · intro s e failed
    have text : IsText (Utf8.encode s) := ⟨s, rfl⟩
    obtain ⟨bytes, rfl⟩ | fails := parseField_error failed
    · rw [bytes]
      exact explains_empty _
    · exact fails.explains text

/-- In a table of voids the letter of void is the first bad byte. -/
theorem errors_blame_void :
    parseMethod "([V)I" = .error (.voidParameter 2) ∧
      IsLeast {i | i < 5 ∧ ¬ Viable (Accepted parseMethod) ((Utf8.encode "([V)I").take (i + 1))}
        2 := by
  have failed : parseMethod "([V)I" = .error (.voidParameter 2) := by decide
  have explained := errors_blame_first_bad_byte.1 _ _ failed
  obtain ⟨p, blamed⟩ := explained.blamed explained.unfinished
  cases blamed.position
  exact ⟨failed, blamed.first⟩

end Descriptor
end HostBridge
