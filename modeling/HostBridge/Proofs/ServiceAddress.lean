import HostBridge.Proofs.FixedLifecycle

/-!
The address of the service. It is kept apart from the phase: a launch writes it once the session
runs, and a shutdown drops it once the session is over. Whoever asks is told the address of the
session that runs, since no code of others comes to run in between.
-/
namespace HostBridge

open Exec

variable {P : Platform} {α : Type}

/-- The settings of a start of the VM. -/
def Happening.startedWith? : Happening P → Option Config
  | .vmCall (.start config) => some config
  | _ => none

namespace State

/-- The settings of the last start of the VM: while a session runs, those it was started with. -/
def sessionConfig? (s : State P) : Option Config := s.record.findSome? Happening.startedWith?

/-- The address that whoever asks is told. -/
def seenUrl (s : State P) : Option String :=
  if s.bridge.phase = .running then s.bridge.serviceUrl else none

theorem seenUrl_idle {s : State P} (idle : s.bridge.phase ≠ .running) : s.seenUrl = none :=
  if_neg idle

theorem sessionConfig?_record (s : State P) {h : Happening P} (other : h.startedWith? = none) :
    ({ s with record := h :: s.record } : State P).sessionConfig? = s.sessionConfig? := by
  simp [sessionConfig?, other]

theorem sessionConfig?_start (s : State P) (config : Config) :
    ({ s with record := .vmCall (.start config) :: s.record } : State P).sessionConfig? =
      some config := rfl

end State

theorem Lifecycle.serviceUrl_run (s : State P) : serviceUrl s = (.value s.seenUrl, s) := by
  have asked : isRunning s = (.value (decide (s.bridge.phase = .running)), s) := rfl
  unfold serviceUrl State.seenUrl
  rw [run_bind, asked]
  by_cases running : s.bridge.phase = .running
  · simp [running, Exec.bridge]
  · simp [running]

theorem Config.serviceUrl_eq_some (c : Config) (u : String) :
    c.serviceUrl = some u ↔ c.startServiceIsolate = true ∧
      u = "http://" ++ c.serviceHost ++ ":" ++ toString c.servicePort.toNat ++ "/" := by
  unfold Config.serviceUrl
  by_cases enabled : c.startServiceIsolate = true
  · simp [enabled, eq_comm]
  · simp [enabled]

/-- What is certain of the address: that it is the one of the session that runs, if any, or that a
session is brought up or taken down, with certain settings. -/
inductive AddressState where
  | settled
  | changing (phase : Phase) (config : Option Config)

namespace AddressState

def Holds : AddressState → Phase → Option String → Option Config → Prop
  | settled, phase, url, session =>
    phase = .running → ∃ config, session = some config ∧ url = config.serviceUrl
  | changing p config, phase, _, session =>
    (p = .initializing ∨ p = .shuttingDown) ∧ phase = p ∧ session = config

/-- States with a certain state of the address. -/
def On (i : AddressState) (s : State P) : Prop :=
  i.Holds s.bridge.phase s.bridge.serviceUrl s.sessionConfig?

/-- States in which the address is that of the session that runs. -/
abbrev Settled : State P → Prop := settled.On

variable {i : AddressState} {s t : State P}

theorem On.of_idle (idle : s.bridge.phase ≠ .running) : Settled s := fun running =>
  absurd running idle

theorem On.idle {p : Phase} {config : Option Config} (h : (changing p config).On s) :
    s.bridge.phase ≠ .running := by
  obtain ⟨between, rfl, -⟩ := h
  rcases between with starting | ending
  · simp [starting]
  · simp [ending]

theorem On.settled (h : i.On s) : Settled s := by
  cases i with
  | settled => exact h
  | changing p config => exact On.of_idle h.idle

/-- Where nothing runs and nothing is under way, nothing more is certain. -/
theorem On.eq_settled (h : i.On s)
    (calm : s.bridge.phase = .uninitialized ∨ s.bridge.phase = .running) : i = .settled := by
  cases i with
  | settled => rfl
  | changing p config =>
    obtain ⟨between, rfl, -⟩ := h
    rcases calm with calm | calm <;> simp [calm] at between

theorem On.record (h : i.On s) {e : Happening P} (other : e.startedWith? = none) :
    i.On { s with record := e :: s.record } := by
  unfold On
  rw [State.sessionConfig?_record s other]
  exact h

/-! ### What goes on around the session -/

theorem inert (i : AddressState) : Inert (P := P) i.On Settled where
  handles _ h := h
  memory _ h := h
  sides _ _ h := h
  report _ h := h.record rfl
  halts _ h := h.settled

theorem programBlind (i : AddressState) : ProgramBlind (P := P) i.On where
  set _ _ _ _ h := h
  record e own h := h.record (by cases e <;> first | rfl | cases own)

section
variable {F : Foreign P (Act P)} {limit : Nat}
  (run : ∀ {β : Type} (b : Act P β) (i : AddressState),
    Keeps i.On Settled ((System.ofPrograms F).exec limit b))
include run

theorem blind (i : AddressState) :
    GuardBlind ((System.ofPrograms F).foreign limit) i.On Settled where
  guard _ h := h
  toStartedCalls := by
    refine System.startedCalls_ofPrograms i.inert.toDetached (fun c started h => ?_)
      (fun _ h => h.record rfl) (fun _ _ _ h => h.record rfl) fun b => run b i
    apply h.record
    cases c with
    | start config => cases started
    | _ => rfl

theorem unaware (i : AddressState) :
    Unaware ((System.ofPrograms F).foreign limit) i.On Settled :=
  System.unaware_ofPrograms i.inert (fun _ h => h) (fun _ h => h.record rfl) fun b => run b i

end

end AddressState

/-! ### Launches and shutdowns -/

/-- From one state to another the address did not change, neither for whoever asks nor for what is
certain of it. -/
structure State.SameAddress (t s : State P) : Prop where
  seen : s.seenUrl = t.seenUrl
  on : ∀ i : AddressState, i.On t → i.On s

namespace State.SameAddress

variable {s t : State P}

theorem refl (s : State P) : s.SameAddress s := ⟨rfl, fun _ h => h⟩

/-- Before a session that did not come to run there is none, and after it neither. -/
theorem of_idle (fresh : t.bridge.phase = .uninitialized) (idle : s.bridge.phase ≠ .running) :
    t.SameAddress s := by
  constructor
  · rw [seenUrl_idle idle, seenUrl_idle (by simp [fresh])]
  · intro i h
    rw [h.eq_settled (.inl fresh)]
    exact .of_idle idle

theorem report (s : State P) (d : Diagnostic) :
    s.SameAddress { s with record := .diagnostic d :: s.record } :=
  ⟨rfl, fun _ h => h.record rfl⟩

end State.SameAddress

/-- The session runs with certain settings, and its address is theirs. -/
structure State.Serves (s : State P) (config : Config) : Prop where
  phase : s.bridge.phase = .running
  session : s.sessionConfig? = some config
  url : s.bridge.serviceUrl = config.serviceUrl

namespace Lifecycle

open AddressState

variable {F : Foreign P (Exec P)} (B : ∀ i : AddressState, GuardBlind F i.On Settled)
include B

/-- From the start of the VM on, a boot keeps to the settings of that start. -/
theorem boot_changing (image : Image) (config : Config) (before : Option Config) :
    Triple (changing .initializing before).On (boot F image config)
      (fun _ => (changing .initializing (some config)).On)
      (fun s => s.bridge.phase ≠ .running) Settled := by
  have C := B (changing .initializing (some config))
  have started : Triple (changing .initializing before).On (F.vm.callStart config)
      (fun _ => (changing .initializing (some config)).On)
      (changing .initializing (some config)).On Settled := by
    refine Triple.bind (Triple.record fun s h => ?_) fun _ => C.returned (C.start config)
    obtain ⟨between, phase, -⟩ := h
    exact ⟨between, phase, s.sessionConfig?_start config⟩
  exact (C.boot_of_start image started).conseq (fun _ h => h) (fun _ _ h => h) (fun _ h => h.idle)
    fun _ h => h

/-- A start that fails, or is refused, does not change the address. -/
theorem start_address (image : Image) (config : Config) (t : State P) :
    Triple (· = t) (start F image config)
      (fun r s => match r with
        | .ok _ => t.bridge.phase = .uninitialized ∧ s.bridge.phase = .running ∧
          s.sessionConfig? = some config
        | .error _ => t.SameAddress s)
      t.SameAddress Settled := by
  by_cases fresh : t.bridge.phase = .uninitialized
  · have set : Triple (· = t) (setPhase .initializing)
        (fun _ => (changing .initializing t.sessionConfig?).On)
        (fun s => s.bridge.phase ≠ .running) Settled := by
      apply Triple.update
      rintro _ rfl
      exact ⟨.inl rfl, rfl, rfl⟩
    have started : Triple (· = t) (start F image config)
        (fun r s => match r with
          | .ok _ => s.bridge.phase = .running ∧ s.sessionConfig? = some config
          | .error _ => s.bridge.phase ≠ .running)
        (fun s => s.bridge.phase ≠ .running) Settled := by
      unfold start phase
      refine Triple.bind Triple.asks fun now => Triple.of_pre fun s ⟨same, ht⟩ => ?_
      subst ht same
      rw [if_neg (not_not.mpr fresh)]
      refine set.bind fun _ => (boot_changing B image config _).bind fun r => ?_
      cases r with
      | ok i =>
        refine Triple.bind (Triple.update fun u h => ?_) fun _ => Triple.pure fun _ h => h
        obtain ⟨-, -, session⟩ := h
        exact ⟨rfl, session⟩
      | error e =>
        have ended : Triple (changing .initializing (some config)).On (setPhase .uninitialized)
            (fun _ (s : State P) => s.bridge.phase ≠ .running) (fun s => s.bridge.phase ≠ .running)
            Settled :=
          Triple.update fun _ _ => nofun
        exact ended.bind fun _ => Triple.bind (Triple.record fun _ h => h) fun _ =>
          Triple.pure fun _ h => h
    apply started.conseq (fun _ h => h)
    · intro r s h
      cases r with
      | ok _ => exact ⟨fresh, h⟩
      | error e => exact .of_idle fresh h
    · exact fun s idle => .of_idle fresh idle
    · exact fun _ h => h
  · rintro _ rfl
    rw [start_refused F image fresh]
    exact .refl _

/-- A launch that comes through serves with its settings; any other does not change the address. -/
theorem launchWith_address (path : Path) (config : Config) (t : State P) :
    Triple (· = t) (launchWith F path config)
      (fun r s => match r with
        | .ok _ => t.bridge.phase = .uninitialized ∧ s.Serves config
        | .error _ => t.SameAddress s)
      t.SameAddress Settled := by
  unfold launchWith
  refine Triple.bind Triple.asked fun files => ?_
  split
  · refine Triple.pure ?_
    rintro _ rfl
    exact .refl _
  · refine Triple.bind (start_address B _ config t) fun r => ?_
    cases r with
    | error e => exact Triple.pure fun _ h => h
    | ok _ =>
      refine Triple.bind (Triple.update fun u h => ?_) fun _ => Triple.pure fun _ h => h
      obtain ⟨fresh, phase, session⟩ := h
      exact ⟨fresh, phase, session, rfl⟩

/-- The same of a launch that looks for its settings. -/
theorem launch_address (path : Path) (t : State P) :
    Triple (· = t) (launch F path)
      (fun r s => match r with
        | .ok _ => ∃ config, s.Serves config
        | .error _ => s.seenUrl = t.seenUrl)
      (fun s => s.seenUrl = t.seenUrl) fun _ => True := by
  intro s here
  subst here
  by_cases fresh : s.bridge.phase = .uninitialized
  · cases loaded : Config.load s.files s.environment path with
    | error e => simp [launch, phase, Exec.bridge, run_bind, fresh, loaded]
    | ok config =>
      have warnedSame : (warned s).seenUrl = s.seenUrl := by
        unfold warned
        split <;> rfl
      rw [launch_eq F fresh loaded]
      refine ((launchWith_address B path config (warned s)).conseq (fun _ h => h) ?_ ?_ ?_) _ rfl
      · intro r s h
        cases r with
        | ok _ => exact ⟨config, h.2⟩
        | error e => exact h.seen.trans warnedSame
      · exact fun s h => h.seen.trans warnedSame
      · exact fun _ _ => trivial
  · rw [launch_refused F fresh]

theorem launchWith_keepsAddress (i : AddressState) (path : Path) (config : Config) :
    Keeps i.On Settled (launchWith F path config) := by
  refine Triple.of_pre fun t ht => (launchWith_address B path config t).conseq (fun _ h => h)
    (fun r s h => ?_) (fun s h => h.on i ht) fun _ h => h
  cases r with
  | ok _ =>
    rw [ht.eq_settled (.inl h.1)]
    exact fun _ => ⟨config, h.2.session, h.2.url⟩
  | error e => exact h.on i ht

omit B in
/-- A shutdown that is refused, or finds nothing to end, does not change the address. -/
theorem beginShutdown_address (t : State P) {E H : State P → Prop} :
    Triple (· = t) beginShutdown
      (fun r s => match r with
        | .ok true => t.bridge.phase = .running ∧
          (changing .shuttingDown t.sessionConfig?).On s
        | _ => t.SameAddress s) E H := by
  unfold beginShutdown isRunning phase
  refine Triple.bind Triple.asked fun me => Triple.bind Triple.asked fun g => ?_
  split
  · refine Triple.bind (Triple.record ?_) fun _ => Triple.pure fun _ h => h
    rintro _ rfl
    exact .report _ _
  · have asked : Triple (· = t) (do return (← Exec.bridge (·.phase)) = .running : Exec P Bool)
        (fun b s => b = decide (t.bridge.phase = .running) ∧ s = t) E H := by
      rintro _ rfl
      exact ⟨rfl, rfl⟩
    refine asked.bind fun running => Triple.of_and ?_
    · rintro rfl
      split
      case isTrue running =>
        refine Triple.bind (Triple.update ?_) fun _ => Triple.pure fun _ h => h
        rintro _ rfl
        exact ⟨by simpa using running, .inr rfl, rfl, rfl⟩
      case isFalse =>
        refine Triple.pure ?_
        rintro _ rfl
        exact .refl _

theorem finishShutdown_changing (session : Option Config) :
    Triple (changing .shuttingDown session).On (finishShutdown F)
      (fun _ s => s.bridge.phase ≠ .running) (changing .shuttingDown session).On Settled := by
  have C := B (changing .shuttingDown session)
  unfold finishShutdown
  refine Triple.bind (C.vmCalls.exclusively_keeps C.guard ?_) fun _ =>
    Triple.bind (C.call C.stop) fun _ => Triple.update fun s _ => ?_
  · refine Keeps.bridge.bind fun found => Keeps.bind (Keeps.modify fun _ h => h) fun _ => ?_
    cases found with
    | none => exact Keeps.pure
    | some isolate => exact C.call (C.shutdownIsolate isolate)
  · simp

/-- Only a shutdown that ends a session changes the address, and after that there is none. -/
theorem shutdown_address (t : State P) :
    Triple (· = t) (shutdown F)
      (fun r s => match r with
        | .ok true => t.bridge.phase = .running ∧ s.bridge.phase ≠ .running
        | _ => t.SameAddress s)
      (fun s => t.bridge.phase = .running ∧ s.bridge.phase ≠ .running) Settled := by
  have ended : Triple (· = t) (shutdownWith F (clear F))
      (fun r s => match r with
        | .ok true => t.bridge.phase = .running ∧ s.bridge.phase ≠ .running
        | _ => t.SameAddress s)
      (fun s => t.bridge.phase = .running ∧ s.bridge.phase ≠ .running) Settled := by
    unfold shutdownWith
    refine Triple.bind (beginShutdown_address t) fun r => ?_
    rcases r with e | _ | _
    · exact Triple.pure fun _ h => h
    · exact Triple.pure fun _ h => h
    · refine Triple.of_and fun running => ?_
      have cleared :
          Keeps (P := P) (changing .shuttingDown t.sessionConfig?).On Settled (clear F) :=
        ((inert _).withstands F).clear_keeps (fun _ h => h) fun _ h => h
      apply Triple.bind (cleared.conseq (fun _ h => h) (fun _ _ h => h)
        (fun _ h => ⟨running, h.idle⟩) fun _ h => h)
      intro _
      apply Triple.bind ((finishShutdown_changing B t.sessionConfig?).conseq (fun _ h => h)
        (fun _ _ idle => And.intro running idle) (fun _ h => ⟨running, h.idle⟩) fun _ h => h)
      exact fun _ => Triple.pure fun _ h => h
  unfold shutdown
  refine ended.bind fun r => ?_
  rcases r with e | _ | _
  · exact Triple.pure fun _ h => h
  · exact Triple.pure fun _ h => h
  · exact Triple.bind (Triple.update fun _ h => h) fun _ => Triple.pure fun _ h => h

theorem shutdown_keepsAddress (i : AddressState) : Keeps i.On Settled (shutdown F) := by
  refine Triple.of_pre fun t ht => ?_
  have idle (s : State P) (h : t.bridge.phase = .running ∧ s.bridge.phase ≠ .running) : i.On s := by
    rw [ht.eq_settled (.inr h.1)]
    exact .of_idle h.2
  refine (shutdown_address B t).conseq (fun _ h => h) (fun r s h => ?_) idle fun _ h => h
  rcases r with e | _ | _
  · exact h.on i ht
  · exact h.on i ht
  · exact idle s h

end Lifecycle

/-! ### Programs -/

namespace AddressState

section
variable {F : Foreign P (Act P)} {limit : Nat}
  (run : ∀ {β : Type} (b : Act P β) (i : AddressState),
    Keeps i.On Settled ((System.ofPrograms F).exec limit b))
include run

theorem kept : SessionKept ((System.ofPrograms F).foreign limit) (On (P := P)) Settled where
  launch i path := launch_keeps_of_launchWith (inert i).toDetached
    (Lifecycle.launchWith_keepsAddress (blind run) i) path
  launchWith i path config := Lifecycle.launchWith_keepsAddress (blind run) i path config
  shutdown i := Lifecycle.shutdown_keepsAddress (blind run) i
  tick := (BurstUse.ofBlind (blind run)).tick_keeps
  dispatch := (BurstUse.ofBlind (blind run)).dispatch_keeps

def contract : ProgramContract ((System.ofPrograms F).foreign limit) (On (P := P)) Settled :=
  .ofPrograms (.ofUnaware (unaware run)) programBlind (kept run)
    (fun i => ((inert i).withstands _).clearMembers fun _ h => h) run

end

/-- Every program keeps what is certain of the address. -/
theorem exec_keeps (F : Foreign P (Act P)) (limit : Nat) (a : Act P α) (i : AddressState) :
    Keeps i.On Settled ((System.ofPrograms F).exec limit a) :=
  System.exec_keeps (I := On) (fun _ _ h => h.settled) (fun _ run => contract run) limit a i

end AddressState

namespace System

/-- Whatever programs use a new bridge, at every moment: whoever asks for the address of the service
is told one just if a session runs whose settings turn the service on, and then the one of these
settings. A launch that comes through serves with its settings. One that fails or is refused does
not change what is told, and neither does a shutdown that is refused or finds nothing to end.

The programs may have got anywhere, also into the middle of what foreign code does: a program that
halts there leaves the bridge as it is at that point. -/
theorem serviceUrl_of_session (F : Foreign P (Act P)) (limit : Nat)
    (turns : List (ThreadId × Act P Unit)) {s : State P} (new : s.bridge = {}) :
    let t := (ofPrograms F).runTurns limit turns s
    (∃ told, Lifecycle.serviceUrl t = (.value told, t) ∧
      ∀ u, told = some u ↔ t.bridge.phase = .running ∧ ∃ config, t.sessionConfig? = some config ∧
        config.startServiceIsolate = true ∧
        u = "http://" ++ config.serviceHost ++ ":" ++ toString config.servicePort.toNat ++ "/") ∧
    ∀ (depth : Nat) (path : Path) (v : State P),
      (∀ config, Triple (· = v) (Lifecycle.launchWith ((ofPrograms F).foreign depth) path config)
        (fun r w => match r with
          | .ok _ => w.Serves config
          | .error _ => w.seenUrl = v.seenUrl)
        (fun w => w.seenUrl = v.seenUrl) fun _ => True) ∧
      Triple (· = v) (Lifecycle.launch ((ofPrograms F).foreign depth) path)
        (fun r w => match r with
          | .ok _ => ∃ config, w.Serves config
          | .error _ => w.seenUrl = v.seenUrl)
        (fun w => w.seenUrl = v.seenUrl) (fun _ => True) ∧
      Triple (· = v) (Lifecycle.shutdown ((ofPrograms F).foreign depth))
        (fun r w => match r with
          | .ok true => w.seenUrl = none
          | _ => w.seenUrl = v.seenUrl)
        (fun w => w.seenUrl = none) fun _ => True := by
  intro t
  have settled : AddressState.Settled t :=
    runTurns_keeps (I := AddressState.Settled) (fun _ h => h) (fun _ _ h => h)
      (fun a => AddressState.exec_keeps F limit a .settled) turns (.of_idle (by simp [new]))
  refine ⟨⟨t.seenUrl, Lifecycle.serviceUrl_run t, fun u => ?_⟩, fun depth path v => ?_⟩
  · by_cases running : t.bridge.phase = .running
    · obtain ⟨config, session, url⟩ := settled running
      rw [State.seenUrl, if_pos running, session, url, Config.serviceUrl_eq_some]
      simp [running]
    · rw [State.seenUrl_idle running]
      simp [running]
  · have B (i : AddressState) :=
      AddressState.blind (fun b => AddressState.exec_keeps F depth b) i
    refine ⟨fun config => ?_, ?_, ?_⟩
    · apply (Lifecycle.launchWith_address B path config v).conseq (fun _ h => h)
      · intro r w h
        cases r with
        | ok _ => exact h.2
        | error e => exact h.seen
      · exact fun _ h => h.seen
      · exact fun _ _ => trivial
    · exact Lifecycle.launch_address B path v
    · apply (Lifecycle.shutdown_address B v).conseq (fun _ h => h)
      · intro r w h
        rcases r with e | _ | _
        · exact h.seen
        · exact h.seen
        · exact State.seenUrl_idle h.2
      · exact fun _ h => State.seenUrl_idle h.2
      · exact fun _ _ => trivial

end System

/-- The settings of the session around a handler that does not come back. -/
theorem Plain.losing_serves :
    ((System.ofPrograms lost).runTurns 2 [(0, launching), (0, losing)] start).Serves {} := by
  obtain ⟨image, launched⟩ := handling_runs fun _ k _ => (Act.op (.readBuffer 1)).bind fun _ =>
    pure k.default
  unfold lost
  rw [System.runTurns_cons (s := start) launched]
  exact ⟨rfl, rfl, rfl⟩

/-- In the middle of a handler the address is that of the session around it, and a launch with other
settings does not change it. -/
theorem System.serviceUrl_of_session_plain :
    let t :=
      (ofPrograms Plain.lost).runTurns 2 [(0, Plain.launching), (0, Plain.losing)] Plain.start
    Plain.start.bridge = {} ∧ t.InBurst ∧
      Lifecycle.serviceUrl t = (.value (some "http://127.0.0.1:5858/"), t) ∧
      ∃ e, Lifecycle.launchWith ((ofPrograms Plain.lost).foreign 1) Plain.imagePath
        { servicePort := 8181 } t = (.value (.error e), t) := by
  have serves := Plain.losing_serves
  obtain ⟨⟨told, asked, shown⟩, -⟩ :=
    serviceUrl_of_session Plain.lost 2 [(0, Plain.launching), (0, Plain.losing)]
      (s := Plain.start) rfl
  have url : told = some "http://127.0.0.1:5858/" :=
    (shown _).mpr ⟨serves.phase, {}, serves.session, rfl, rfl⟩
  refine ⟨rfl, Plain.losing_inBurst, url ▸ asked, ?_⟩
  exact Lifecycle.launchWith_refused_begun _ (by simp [serves.phase]) _ _

end HostBridge
