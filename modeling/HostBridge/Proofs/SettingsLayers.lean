import HostBridge.Proofs.SettingsFile
import HostBridge.Proofs.StrictTexts
import Mathlib.Data.Nat.Digits.Defs

/-!
The layers of the settings. A setting has the value that the environment gives it, or else the one
of the settings file, or else its default. An environment that comes after others hides of them
only what it sets itself.
-/
namespace HostBridge.Config

/-! ### Ports as text -/

/-- The text writes the number with decimal digits, perhaps after a plus sign. -/
def Writes (s : String) (n : Nat) : Prop :=
  ∃ ds : List Nat, ds ≠ [] ∧ (∀ d ∈ ds, d < 10) ∧
    (s.toList = ds.map Nat.digitChar ∨ s.toList = '+' :: ds.map Nat.digitChar) ∧
    n = Nat.ofDigits 10 ds.reverse

/-- A number in reading with one more digit. -/
def portDigit (n : Nat) (c : Char) : Option Nat :=
  if '0' ≤ c ∧ c ≤ '9' then
    let next := n * 10 + (c.toNat - '0'.toNat)
    if next < UInt16.size then some next else none
  else none

/-- The digits of the text of a port, after its sign if there is one. -/
def unsigned (cs : List Char) : List Char :=
  match cs with
  | '+' :: rest => rest
  | cs => cs

theorem port?_eq (s : String) : port? s =
    if unsigned s.toList = [] then none
    else ((unsigned s.toList).foldlM portDigit 0).map UInt16.ofNat := rfl

theorem isDigit_iff {c : Char} : ('0' ≤ c ∧ c ≤ '9') ↔ ∃ d < 10, c = Nat.digitChar d := by
  constructor
  · rintro ⟨low, high⟩
    have low : 48 ≤ c.toNat := low
    have high : c.toNat ≤ 57 := high
    refine ⟨c.toNat - 48, by omega, ?_⟩
    have all : ∀ d < 10, Char.ofNat (d + 48) = Nat.digitChar d := by decide
    rw [← all _ (by omega), show c.toNat - 48 + 48 = c.toNat by omega, Char.ofNat_toNat]
  · rintro ⟨d, small, rfl⟩
    revert d
    decide

theorem toNat_digitChar {d : Nat} (small : d < 10) : (Nat.digitChar d).toNat - '0'.toNat = d := by
  revert d
  decide

theorem portDigit_eq_some {n m : Nat} {c : Char} :
    portDigit n c = some m ↔
      ∃ d < 10, c = Nat.digitChar d ∧ m = n * 10 + d ∧ m < UInt16.size := by
  unfold portDigit
  split
  case isTrue isDigit =>
    obtain ⟨d, small, rfl⟩ := isDigit_iff.mp isDigit
    rw [toNat_digitChar small]
    dsimp only
    constructor
    · intro h
      split at h
      · cases h
        exact ⟨d, small, rfl, rfl, ‹_›⟩
      · cases h
    · rintro ⟨d', small', same, rfl, bound⟩
      obtain rfl : d = d' := by
        rw [← toNat_digitChar small, same, toNat_digitChar small']
      exact if_pos bound
  case isFalse other =>
    refine ⟨nofun, ?_⟩
    rintro ⟨d, small, rfl, -, -⟩
    exact absurd (isDigit_iff.mpr ⟨d, small, rfl⟩) other

/-- The number that digits add to one that was read before them. -/
def append (n : Nat) (ds : List Nat) : Nat := ds.foldl (fun n d => n * 10 + d) n

theorem le_append (n : Nat) (ds : List Nat) : n ≤ append n ds := by
  induction ds generalizing n with
  | nil => exact le_rfl
  | cons d ds ih => exact le_trans (by omega) (ih (n * 10 + d))

theorem append_zero (ds : List Nat) : append 0 ds = Nat.ofDigits 10 ds.reverse := by
  rw [Nat.ofDigits_eq_foldr, List.foldr_reverse, append]
  congr 1
  funext n d
  rw [Nat.cast_id]
  omega

/-- Digits are read one by one and never beyond 16 bits. -/
theorem foldlM_portDigit_eq_some {cs : List Char} {n m : Nat} (bound : n < UInt16.size) :
    cs.foldlM portDigit n = some m ↔
      ∃ ds : List Nat, (∀ d ∈ ds, d < 10) ∧ cs = ds.map Nat.digitChar ∧ m = append n ds ∧
        m < UInt16.size := by
  induction cs generalizing n with
  | nil =>
    constructor
    · intro h
      cases h
      exact ⟨[], nofun, rfl, rfl, bound⟩
    · rintro ⟨ds, -, none, rfl, -⟩
      obtain rfl := List.map_eq_nil_iff.mp none.symm
      rfl
  | cons c cs ih =>
    rw [List.foldlM_cons, Option.bind_eq_bind, Option.bind_eq_some_iff]
    constructor
    · rintro ⟨next, first, rest⟩
      obtain ⟨d, small, rfl, rfl, bound'⟩ := portDigit_eq_some.mp first
      obtain ⟨ds, digits, rfl, rfl, fits⟩ := (ih bound').mp rest
      exact ⟨d :: ds, List.forall_mem_cons.mpr ⟨small, digits⟩, rfl, rfl, fits⟩
    · rintro ⟨ds, digits, same, rfl, fits⟩
      obtain ⟨d, ds, rfl, rfl, rfl⟩ := List.map_eq_cons_iff.mp same.symm
      obtain ⟨small, digits⟩ := List.forall_mem_cons.mp digits
      have bound' : n * 10 + d < UInt16.size := lt_of_le_of_lt (le_append _ ds) fits
      exact ⟨_, portDigit_eq_some.mpr ⟨d, small, rfl, rfl, bound'⟩,
        (ih bound').mpr ⟨ds, digits, rfl, rfl, fits⟩⟩

theorem unsigned_eq_digits {cs : List Char} {ds : List Nat} (digits : ∀ d ∈ ds, d < 10) :
    unsigned cs = ds.map Nat.digitChar ↔
      cs = ds.map Nat.digitChar ∨ cs = '+' :: ds.map Nat.digitChar := by
  have noSign : ∀ rest, ds.map Nat.digitChar ≠ '+' :: rest := by
    intro rest same
    obtain ⟨d, ds, rfl, sign, -⟩ := List.map_eq_cons_iff.mp same
    have all : ∀ d < 10, Nat.digitChar d ≠ '+' := by decide
    exact all d (digits d List.mem_cons_self) sign
  unfold unsigned
  split
  case h_1 rest =>
    constructor
    · rintro rfl
      exact .inr rfl
    · rintro (same | same)
      · exact absurd same.symm (noSign _)
      · exact (List.cons.inj same).2
  case h_2 other =>
    constructor
    · exact .inl
    · rintro (same | same)
      · exact same
      · exact absurd same (other _)

/-- A port is read exactly from the texts that write it. -/
theorem port?_eq_some {s : String} {p : UInt16} : port? s = some p ↔ Writes s p.toNat := by
  have positive : 0 < UInt16.size := by decide
  rw [port?_eq]
  constructor
  · intro h
    split at h
    case isTrue => cases h
    case isFalse present =>
      obtain ⟨n, read, rfl⟩ := Option.map_eq_some_iff.mp h
      obtain ⟨ds, digits, same, rfl, fits⟩ := (foldlM_portDigit_eq_some positive).mp read
      refine ⟨ds, ?_, digits, (unsigned_eq_digits digits).mp same, ?_⟩
      · rintro rfl
        exact present same
      · rw [UInt16.toNat_ofNat', Nat.mod_eq_of_lt fits, append_zero]
  · rintro ⟨ds, present, digits, written, value⟩
    have same := (unsigned_eq_digits digits).mpr written
    rw [same, if_neg (by simpa using present)]
    refine Option.map_eq_some_iff.mpr ⟨p.toNat, (foldlM_portDigit_eq_some positive).mpr
      ⟨ds, digits, rfl, ?_, p.toNat_lt⟩, UInt16.ofNat_toNat⟩
    rw [value, append_zero]

/-! ### What variables set -/

/-- The variables of a process by name, as bytes. -/
abbrev Variables : Type := String → Option (List UInt8)

/-- A variable is set to a text. -/
def Shows (raw : Variables) (name s : String) : Prop := raw name = some (Utf8.encode s)

/-- The variable for the port is set to the text of a port, perhaps between blanks. -/
def Asks (raw : Variables) (p : UInt16) : Prop :=
  ∃ s, Shows raw Environment.servicePortName s ∧ Writes (Text.trim s) p.toNat

/-- The value that variables set a setting to. The port zero turns the service off and no port is
set. -/
def Sets (raw : Variables) : (k : Key) → k.Value → Prop
  | .vmLibrary, path => path.text ≠ "" ∧ Shows raw Environment.vmLibraryName path.text
  | .logFilter, s => s ≠ "" ∧ Shows raw Environment.logName s
  | .startServiceIsolate, on => ∃ p, Asks raw p ∧ on = (p != 0)
  | .servicePort, p => p ≠ (0 : UInt16) ∧ Asks raw p
  | .entryPoint, _ => False
  | .serviceHost, _ => False
  | .packageConfig, _ => False

/-- The port that the environment asks for. -/
def Environment.port? (env : Environment) : Option UInt16 :=
  env.servicePort.bind (Config.port? <| Text.trim ·)

/-- The value that the environment gives a setting. -/
def Environment.value? (env : Environment) : (k : Key) → Option k.Value
  | .vmLibrary => (override env.vmLibrary).map Path.mk
  | .logFilter => override env.log
  | .startServiceIsolate => env.port?.map (· != 0)
  | .servicePort => env.port?.filter fun p : UInt16 => p != 0
  | .entryPoint => none
  | .serviceHost => none
  | .packageConfig => none

theorem withPort_eq (c : Config) (env : Environment) : c.withPort env.servicePort =
    { c with
      startServiceIsolate := (env.value? .startServiceIsolate).getD c.startServiceIsolate
      servicePort := (env.value? .servicePort).getD c.servicePort } := by
  have asked : env.servicePort.bind (Config.port? <| Text.trim ·) = env.port? := rfl
  unfold withPort Environment.value?
  rw [asked]
  cases env.port? with
  | none => rfl
  | some p =>
    by_cases zero : p = 0
    · subst zero
      rfl
    · have other : (p != 0) = true := by simpa using zero
      have kept : (some p).filter (fun p : UInt16 => p != 0) = some p :=
        Option.filter_some_pos other
      change (if p = 0 then _ else { c with startServiceIsolate := true, servicePort := p }) =
        { c with
          startServiceIsolate := p != 0
          servicePort := ((some p).filter fun p : UInt16 => p != 0).getD c.servicePort }
      rw [if_neg zero, kept, other, Option.getD_some]

/-- Settings under an environment: its values in place of their own. -/
theorem get_withEnvironment (c : Config) (env : Environment) (k : Key) :
    k.get (c.withEnvironment env) = (env.value? k).getD (k.get c) := by
  unfold withEnvironment
  rw [withPort_eq]
  cases k <;> rfl

theorem ofBytes_shows {raw : Variables} {name s : String} :
    (raw name).bind Utf8.decode? = some s ↔ Shows raw name s := by
  rw [Option.bind_eq_some_iff]
  constructor
  · rintro ⟨bytes, set, read⟩
    rw [Shows, set, Utf8.decode?_eq_some.mp read]
  · intro shows'
    exact ⟨_, shows', Utf8.decode?_eq_some.mpr rfl⟩

theorem ofBytes_asks {raw : Variables} {p : UInt16} :
    (Environment.ofBytes raw).port? = some p ↔ Asks raw p := by
  unfold Environment.port? Asks
  rw [Option.bind_eq_some_iff]
  exact exists_congr fun s => and_congr ofBytes_shows port?_eq_some

theorem override_eq_some {value : Option String} {s : String} :
    override value = some s ↔ s ≠ "" ∧ value = some s := by
  unfold override
  rw [Option.filter_eq_some_iff, and_comm, bne_iff_ne]

theorem ofBytes_sets {raw : Variables} {k : Key} {v : k.Value} :
    (Environment.ofBytes raw).value? k = some v ↔ Sets raw k v := by
  cases k with
  | vmLibrary =>
    refine Option.map_eq_some_iff.trans ⟨?_, ?_⟩
    · rintro ⟨s, set, rfl⟩
      obtain ⟨present, read⟩ := override_eq_some.mp set
      exact ⟨present, ofBytes_shows.mp read⟩
    · rintro ⟨present, shown⟩
      exact ⟨v.text, override_eq_some.mpr ⟨present, ofBytes_shows.mpr shown⟩, rfl⟩
  | logFilter => exact override_eq_some.trans (and_congr Iff.rfl ofBytes_shows)
  | startServiceIsolate =>
    refine Option.map_eq_some_iff.trans (exists_congr fun p => ?_)
    exact and_congr ofBytes_asks eq_comm
  | servicePort =>
    refine Option.filter_eq_some_iff.trans (and_comm.trans ?_)
    exact and_congr bne_iff_ne ofBytes_asks
  | entryPoint | serviceHost | packageConfig => exact iff_of_false nofun id

/-! ### Environments in turn -/

/-- An environment that is applied again changes nothing. -/
theorem withEnvironment_idem (c : Config) (env : Environment) :
    (c.withEnvironment env).withEnvironment env = c.withEnvironment env := by
  apply Key.ext_get
  intro k
  rw [get_withEnvironment, get_withEnvironment]
  cases env.value? k <;> rfl

/-- Settings under one environment after another. -/
def withEnvironments (c : Config) (raws : List Variables) : Config :=
  raws.foldl (fun c raw => c.withEnvironment (.ofBytes raw)) c

/-- Variables that leave a setting alone. -/
def Leaves (raw : Variables) (k : Key) : Prop := ∀ v, ¬ Sets raw k v

/-- The last of the variables that set a setting set it to this value. -/
def SetsLast (raws : List Variables) (k : Key) (v : k.Value) : Prop :=
  ∃ earlier raw later, raws = earlier ++ raw :: later ∧ Sets raw k v ∧ ∀ r ∈ later, Leaves r k

theorem get_of_sets {raw : Variables} {k : Key} {v : k.Value} (sets : Sets raw k v)
    (c : Config) : k.get (c.withEnvironment (.ofBytes raw)) = v := by
  rw [get_withEnvironment, ofBytes_sets.mpr sets, Option.getD_some]

theorem get_of_leaves {raw : Variables} {k : Key} (leaves : Leaves raw k) (c : Config) :
    k.get (c.withEnvironment (.ofBytes raw)) = k.get c := by
  have none : (Environment.ofBytes raw).value? k = none :=
    Option.eq_none_iff_forall_ne_some.mpr fun v set => leaves v (ofBytes_sets.mp set)
  rw [get_withEnvironment, none, Option.getD_none]

theorem get_withEnvironments_of_leave {raws : List Variables} {k : Key}
    (leave : ∀ raw ∈ raws, Leaves raw k) (c : Config) :
    k.get (c.withEnvironments raws) = k.get c := by
  induction raws generalizing c with
  | nil => rfl
  | cons raw raws ih =>
    obtain ⟨first, rest⟩ := List.forall_mem_cons.mp leave
    exact (ih rest _).trans (get_of_leaves first c)

theorem get_withEnvironments_of_setsLast {raws : List Variables} {k : Key} {v : k.Value}
    (last : SetsLast raws k v) (c : Config) : k.get (c.withEnvironments raws) = v := by
  obtain ⟨earlier, raw, later, rfl, sets, leave⟩ := last
  unfold withEnvironments
  rw [List.foldl_append, List.foldl_cons]
  exact (get_withEnvironments_of_leave leave _).trans (get_of_sets sets _)

/-! ### All layers -/

/-- The setting `k` of `c` comes from the variables, or else from the settings that are given, or
else it is the default. -/
structure Layered (raw : Variables) (l : List Setting) (c : Config) (k : Key) : Prop where
  fromVariables {v} (sets : Sets raw k v) : k.get c = v
  fromFile {v} (leaves : Leaves raw k) (given : ⟨k, v⟩ ∈ l) : k.get c = v
  fromDefaults (leaves : Leaves raw k) (absent : k ∉ keys l) : k.get c = k.get {}

theorem layered (raw : Variables) {l : List Setting} (distinct : (keys l).Nodup) (k : Key) :
    Layered raw l ((assign l {}).withEnvironment (.ofBytes raw)) k where
  fromVariables sets := get_of_sets sets _
  fromFile leaves given := by
    rw [get_of_leaves leaves, get_assign distinct, given?_of_mem distinct given, Option.getD_some]
  fromDefaults leaves absent := by
    rw [get_of_leaves leaves, get_assign_of_notMem absent]

section
variable {fs : FileSystem} {image directory : Path} {text : String}

theorem load_of_failure {e : FileError} (parent : image.parent? = some directory)
    (failed : fs.readText (directory.join fileName) = .error e) (env : Environment) :
    load fs env image = if e = .notFound then .ok (({} : Config).withEnvironment env)
      else .error (.io (directory.join fileName) e) := by
  unfold load besideImage ofFileIfPresent ofFile
  simp only [parent, failed]
  cases e <;> rfl

theorem load_of_text (parent : image.parent? = some directory)
    (read : fs.readText (directory.join fileName) = .ok text) (env : Environment) :
    load fs env image = match Json.parse reader text with
      | .ok c => .ok (c.withEnvironment env)
      | .error e => .error (.json (directory.join fileName) e) := by
  unfold load besideImage ofFileIfPresent ofFile
  simp only [parent, read]
  cases Json.parse reader text <;> rfl

theorem load_of_gives {l : List Setting} (parent : image.parent? = some directory)
    (read : fs.readText (directory.join fileName) = .ok text) (gives : Gives text l)
    (env : Environment) : load fs env image = .ok ((assign l {}).withEnvironment env) := by
  rw [load_of_text parent read, parse_reader_eq_ok.mpr ⟨l, gives, rfl⟩]

/-- Reading the settings fails if the file cannot be read, though it is there, or its text gives no
settings. -/
theorem load_fails_iff (parent : image.parent? = some directory) (env : Environment) :
    (∃ e, load fs env image = .error e) ↔
      (∃ e, fs.readText (directory.join fileName) = .error e ∧ e ≠ .notFound) ∨
      ∃ text, fs.readText (directory.join fileName) = .ok text ∧ ¬ ∃ l, Gives text l := by
  cases read : fs.readText (directory.join fileName) with
  | error e =>
    rw [load_of_failure parent read]
    by_cases absent : e = .notFound <;> simp [absent]
  | ok text =>
    rw [load_of_text parent read]
    cases parsed : Json.parse reader text with
    | ok c =>
      obtain ⟨l, gives, -⟩ := parse_reader_eq_ok.mp parsed
      refine iff_of_false (fun ⟨_, failed⟩ => nomatch failed) ?_
      rintro (⟨_, failed, -⟩ | ⟨_, same, refused⟩)
      · cases failed
      · cases same
        exact refused ⟨l, gives⟩
    | error e =>
      refine iff_of_true ⟨_, rfl⟩ (.inr ⟨text, rfl, ?_⟩)
      rintro ⟨l, gives⟩
      rw [parse_reader_eq_ok.mpr ⟨l, gives, rfl⟩] at parsed
      cases parsed

end

/-- The settings of an image come from the file beside it and from the environment. -/
theorem load_layers (fs : FileSystem) (raw : Variables) {image directory : Path}
    (parent : image.parent? = some directory) :
    -- what is not read
    ((∃ e, load fs (.ofBytes raw) image = .error e) ↔
      (∃ e, fs.readText (directory.join fileName) = .error e ∧ e ≠ .notFound) ∨
      ∃ text, fs.readText (directory.join fileName) = .ok text ∧ ¬ ∃ l, Gives text l) ∧
    -- what is read
    (fs.readText (directory.join fileName) = .error .notFound →
      ∃ c, load fs (.ofBytes raw) image = .ok c ∧ ∀ k, Layered raw [] c k) ∧
    (∀ text l, fs.readText (directory.join fileName) = .ok text → Gives text l →
      ∃ c, load fs (.ofBytes raw) image = .ok c ∧ ∀ k, Layered raw l c k) ∧
    -- the order of the file does not matter
    (∀ fs' text text' l l', fs.readText (directory.join fileName) = .ok text → Gives text l →
      fs'.readText (directory.join fileName) = .ok text' → Gives text' l' → l.Perm l' →
      load fs' (.ofBytes raw) image = load fs (.ofBytes raw) image) ∧
    -- environments in turn
    (∀ c : Config, (c.withEnvironment (.ofBytes raw)).withEnvironment (.ofBytes raw) =
      c.withEnvironment (.ofBytes raw)) ∧
    ∀ (raws : List Variables) (c : Config) (k : Key),
      (∀ v, SetsLast raws k v → k.get (c.withEnvironments raws) = v) ∧
      ((∀ r ∈ raws, Leaves r k) → k.get (c.withEnvironments raws) = k.get c) := by
  refine ⟨load_fails_iff parent _, ?_, ?_, ?_, fun c => withEnvironment_idem c _, ?_⟩
  · intro absent
    exact ⟨_, load_of_failure parent absent _, layered raw List.nodup_nil⟩
  · intro text l read gives
    exact ⟨_, load_of_gives parent read gives _, layered raw gives.distinct⟩
  · intro fs' text text' l l' read gives read' gives' same
    rw [load_of_gives parent read gives, load_of_gives parent read' gives',
      assign_perm gives.distinct same]
  · intro raws c k
    exact ⟨fun v last => get_withEnvironments_of_setsLast last c,
      fun leave => get_withEnvironments_of_leave leave c⟩

/-! ### A settings file -/

/-- One variable, set to a text. -/
def only (name text : String) : Variables := fun other =>
  if other = name then some (Utf8.encode text) else none

namespace Plain

/-- The text of a settings file. -/
def file : String := "\x7b\"log_filter\": \"debug\", \"entry_point\": \"go\"\x7d"

/-- A directory with the settings file. -/
def files : FileSystem := FileSystem.empty.addFile ⟨"app/dart_bridge.json"⟩ (Utf8.encode file)

theorem file_gives : Gives file [⟨.logFilter, "debug"⟩, ⟨.entryPoint, "go"⟩] := by
  -- what is left of the text where the reader stands, so that no step reads it from the start
  have brace : Json.Stands '\x7b' (Utf8.encode file)
      (Utf8.encode "\"log_filter\": \"debug\", \"entry_point\": \"go\"\x7d") := ⟨_, rfl, rfl⟩
  have firstName :
      Json.stringBody (Utf8.encode "log_filter\": \"debug\", \"entry_point\": \"go\"\x7d") =
        .ok ("log_filter", Utf8.encode ": \"debug\", \"entry_point\": \"go\"\x7d") := rfl
  have firstValue : Key.value .logFilter (Utf8.encode " \"debug\", \"entry_point\": \"go\"\x7d") =
      .ok ("debug", Utf8.encode ", \"entry_point\": \"go\"\x7d") := rfl
  have comma : Json.Stands ',' (Utf8.encode ", \"entry_point\": \"go\"\x7d")
      (Utf8.encode " \"entry_point\": \"go\"\x7d") := ⟨_, rfl, rfl⟩
  have secondName : Json.stringBody (Utf8.encode "entry_point\": \"go\"\x7d") =
      .ok ("entry_point", Utf8.encode ": \"go\"\x7d") := rfl
  have secondValue : Key.value .entryPoint (Utf8.encode " \"go\"\x7d") =
      .ok ("go", Utf8.encode "\x7d") := rfl
  have closed : Members false [] (Utf8.encode "\x7d") [] := .closed ⟨_, rfl, rfl⟩
  have entry : Members false [⟨.entryPoint, "go"⟩]
      (Utf8.encode ", \"entry_point\": \"go\"\x7d") [] :=
    .member comma ⟨_, rfl, rfl⟩ secondName ⟨_, rfl, rfl⟩ secondValue closed
  have members : Members true [⟨.logFilter, "debug"⟩, ⟨.entryPoint, "go"⟩]
      (Utf8.encode "\"log_filter\": \"debug\", \"entry_point\": \"go\"\x7d") [] :=
    .member rfl ⟨_, rfl, rfl⟩ firstName ⟨_, rfl, rfl⟩ firstValue entry
  exact .object brace members (by decide) rfl

theorem readText_files : files.readText (Path.join ⟨"app"⟩ fileName) = .ok file := by
  have read : files.read (Path.join ⟨"app"⟩ fileName) = .ok (Utf8.encode file) := rfl
  unfold FileSystem.readText
  rw [read]
  dsimp only
  rw [Utf8.decode?_eq_some.mpr rfl]

end Plain

/-- A file that cannot be read; a file with two settings, one of them under a variable; and two
environments in turn. -/
theorem load_layers_plain :
    let zero := only Environment.servicePortName "0"
    let port := only Environment.servicePortName "+8080 "
    Path.parent? ⟨"\x00/app"⟩ = some ⟨"\x00"⟩ ∧
      (∃ e, load .empty (.ofBytes zero) ⟨"\x00/app"⟩ = .error e) ∧
      Path.parent? ⟨"app/main.dill"⟩ = some ⟨"app"⟩ ∧
      (∃ c, load Plain.files (.ofBytes (only Environment.logName "trace")) ⟨"app/main.dill"⟩ =
          .ok c ∧
        c.logFilter = "trace" ∧ c.entryPoint = "go" ∧ c.servicePort = 5858) ∧
      (withEnvironments {} [port, zero]).startServiceIsolate = false ∧
      (withEnvironments {} [port, zero]).servicePort = 8080 := by
  intro zero port
  have parent : Path.parent? ⟨"\x00/app"⟩ = some ⟨"\x00"⟩ := rfl
  have beside : Path.parent? ⟨"app/main.dill"⟩ = some ⟨"app"⟩ := rfl
  obtain ⟨fails, -, -, -, -, inTurn⟩ := load_layers .empty zero parent
  obtain ⟨-, -, reads, -⟩ := load_layers Plain.files (only Environment.logName "trace") beside
  have asksZero : Asks zero 0 := ⟨"0", rfl, [0], by decide, by decide, .inl rfl, by decide⟩
  have asksPort : Asks port 8080 :=
    ⟨"+8080 ", rfl, [8, 0, 8, 0], by decide, by decide, .inr rfl, by decide⟩
  refine ⟨parent, fails.mpr (.inl ⟨.invalidInput, ?_, by decide⟩), beside, ?_, ?_, ?_⟩
  · have zeroByte : (Path.join ⟨"\x00"⟩ fileName).text.toList.any (· == '\x00') = true := by
      decide +kernel
    unfold FileSystem.readText FileSystem.read FileSystem.walk
    rw [if_pos zeroByte]
  · obtain ⟨c, loaded, layers⟩ := reads _ _ Plain.readText_files Plain.file_gives
    refine ⟨c, loaded, ?_, ?_, ?_⟩
    · have present : "trace" ≠ "" := by decide
      have set : Sets (only Environment.logName "trace") .logFilter "trace" := ⟨present, rfl⟩
      exact (layers .logFilter).fromVariables set
    · have given : (⟨.entryPoint, "go"⟩ : Setting) ∈
          [⟨.logFilter, "debug"⟩, (⟨.entryPoint, "go"⟩ : Setting)] :=
        List.mem_cons_of_mem _ List.mem_cons_self
      exact (layers .entryPoint).fromFile (fun _ => id) given
    · refine (layers .servicePort).fromDefaults ?_ (by decide)
      rintro p ⟨-, s, shown, -⟩
      cases shown
  · refine (inTurn _ {} .startServiceIsolate).1 false ?_
    exact ⟨[port], zero, [], rfl, ⟨0, asksZero, rfl⟩, List.forall_mem_nil _⟩
  · have nonzero : (8080 : UInt16) ≠ 0 := by decide
    refine (inTurn _ {} .servicePort).1 (8080 : UInt16) ⟨[], _, _, rfl, ⟨nonzero, asksPort⟩, ?_⟩
    rintro r mem p ⟨other, asked⟩
    obtain rfl := List.mem_singleton.mp mem
    have same := (ofBytes_asks.mpr asked).symm.trans (ofBytes_asks.mpr asksZero)
    exact other (Option.some.inj same)

end HostBridge.Config
