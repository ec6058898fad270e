import HostBridge.Proofs.HandleAccounts
import HostBridge.Proofs.HandleHistory
import HostBridge.Proofs.HostBodies
import HostBridge.Proofs.Plain

/-!
No hidden handles over whole runs. Every caller, at whatever depth of the calls it stands, is told
which handle it got and which were released; in the order of time this makes a log. The table stands
as that log says at every moment: between the deeds of an operation, around the code of the host,
and between one program and the next.
-/
namespace HostBridge

variable {P : Platform} {α β : Type}

/-! ### The log -/

/-- What callers were told of the table, the newest first. -/
abbrev Log (P : Platform) := List (HandleTable.Request P.Object × HandleTable.Answer P.Object)

/-- What a deed puts into the log. -/
def Deed.exchanges : Deed P → Log P
  | stored x h => [(.store (some x), .handle h)]
  | released h found => [(.release h, .released found)]
  | releasedAll n => [(.releaseAll, .number n)]
  | _ => []

/-- As long as the numbers of handles have not come round, the table stands as the log says. -/
def Accounted (s : State P) (L : Log P) : Prop :=
  s.bridge.handles.issued < 2 ^ 63 - 1 → s.bridge.handles.Traces L

namespace Accounted

variable {s t : State P} {L : Log P}

theorem of_handles_eq (h : Accounted s L) (same : t.bridge.handles = s.bridge.handles) :
    Accounted t L := by
  unfold Accounted
  rwa [same]

theorem quiet (h : Accounted s L) (between : Quiet s t) : Accounted t L := by
  obtain ⟨reported, bridge⟩ := between.bridge
  unfold Accounted
  rw [bridge]
  intro small
  obtain ⟨issued, null, holds, find, distinct⟩ := h small
  exact ⟨issued, null, holds, find, distinct⟩

/-- What a deed does to the table is in the log. -/
theorem does {d : Deed P} (h : Accounted s L) (does : d.Does s t) :
    Accounted t (d.exchanges ++ L) := by
  cases does with
  | stored =>
    intro small
    have before : s.bridge.handles.issued < 2 ^ 63 - 1 := Nat.lt_of_succ_lt small
    exact (h before).cons_store before _
  | released =>
    intro small
    have before : s.bridge.handles.issued < 2 ^ 63 - 1 := by
      rwa [← HandleTable.release_issued]
    exact (h before).cons_release before _
  | releasedAll => exact fun small => (h small).cons_releaseAll _
  | _ => exact h

end Accounted

/-! ### Operations -/

/-- The deeds of an operation with the log. What the operation does by itself its own caller is
told, and while code of the host runs the log grows by what is told inside. The log is right at
every moment. -/
inductive Told (F : Foreign P (Exec P))
    (inside : Ask P → State P → Log P → State P → Log P → Prop) :
    State P → Log P → List (Deed P) → State P → Log P → Prop
  | here {s L} (right : Accounted s L) : Told F inside s L [] s L
  | quiet {s t u ds L M} (right : Accounted s L) (between : Quiet s t)
      (rest : Told F inside t L ds u M) : Told F inside s L ds u M
  | asked {s t u ds a came L M N} (right : Accounted s L) (run : a.run F.host s = (came, t))
      (nested : inside a s L t M) (rest : Told F inside t M ds u N) :
    Told F inside s L (.asked a came :: ds) u N
  | own {s t u ds d L M} (right : Accounted s L) (does : d.Does s t)
      (rest : Told F inside t (d.exchanges ++ L) ds u M) : Told F inside s L (d :: ds) u M

variable {F : Foreign P (Exec P)} {inside : Ask P → State P → Log P → State P → Log P → Prop}

/-- If all code of the host has a log, so has every trail. -/
theorem Trail.told
    (nests : ∀ a s L, Accounted s L →
      ∃ M, inside a s L (a.run F.host s).2 M ∧ Accounted (a.run F.host s).2 M)
    {s t : State P} {ds : List (Deed P)} (trail : Trail F s ds t) {L : Log P}
    (right : Accounted s L) : ∃ M, Told F inside s L ds t M ∧ Accounted t M := by
  induction trail generalizing L with
  | here => exact ⟨L, .here right, right⟩
  | quiet between rest ih =>
    obtain ⟨M, told, after⟩ := ih (right.quiet between)
    exact ⟨M, .quiet right between told, after⟩
  | @asked s t u ds a came run rest ih =>
    obtain ⟨M, nested, later⟩ := nests a s L right
    rw [run] at nested later
    obtain ⟨N, told, after⟩ := ih later
    exact ⟨N, .asked right run nested told, after⟩
  | own does rest ih =>
    obtain ⟨M, told, after⟩ := ih (right.does does)
    exact ⟨M, .own right does told, after⟩

/-! ### Programs -/

/-- How a program runs, with the log. Each of its calls of the interface accounts to it for what it
puts into the table and takes out. -/
inductive Act.Told (F : Foreign P (Exec P))
    (inside : Ask P → State P → Log P → State P → Log P → Prop) :
    {α : Type} → Act P α → State P → Log P → Outcome α → State P → Log P → Prop
  | pure {α : Type} {a : α} {s L} (right : Accounted s L) :
    Told F inside (.pure a) s L (.value a) s L
  | panic {α : Type} {m s L} (right : Accounted s L) :
    Told F inside (.panic m : Act P α) s L (.panic m) s L
  | note {n s L} (right : Accounted s L) :
    Told F inside (.note n) s L (.value ()) { s with record := .note n :: s.record } L
  | world {α : Type} {f : P.World → α × P.World} {s L} (right : Accounted s L) :
    Told F inside (.world f) s L (.value (f s.world).1) { s with world := (f s.world).2 } L
  | bind {α β : Type} {x : Act P β} {f : β → Act P α} {s t u b out L M N}
      (first : Told F inside x s L (.value b) t M) (second : Told F inside (f b) t M out u N) :
    Told F inside (.bind x f) s L out u N
  | bindPanic {α β : Type} {x : Act P β} {f : β → Act P α} {s t m L M}
      (first : Told F inside x s L (.panic m) t M) : Told F inside (.bind x f) s L (.panic m) t M
  | bindHalt {α β : Type} {x : Act P β} {f : β → Act P α} {s t w L M}
      (first : Told F inside x s L (.halt w) t M) : Told F inside (.bind x f) s L (.halt w) t M
  | attempt {α : Type} {x : Act P α} {s t a L M} (tried : Told F inside x s L (.value a) t M) :
    Told F inside (.attempt x) s L (.value (.ok a)) t M
  | attemptPanic {α : Type} {x : Act P α} {s t m L M}
      (tried : Told F inside x s L (.panic m) t M) :
    Told F inside (.attempt x) s L (.value (.error m)) t M
  | attemptHalt {α : Type} {x : Act P α} {s t w L M} (tried : Told F inside x s L (.halt w) t M) :
    Told F inside (.attempt x) s L (.halt w) t M
  | op {α : Type} {o : Op P α} {s t out ds L M} (run : o.run F s = (out, t))
      (told : HostBridge.Told F inside s L ds t M) (accounts : o.Accounts out ds) :
    Told F inside (.op o) s L out t M

/-- If all code of the host has a log, so has every program that is permitted. -/
theorem Act.Within.told
    (nests : ∀ a s L, Accounted s L →
      ∃ M, inside a s L (a.run F.host s).2 M ∧ Accounted (a.run F.host s).2 M)
    {a : Act P α} (h : a.Within (.dynamic P)) {s t : State P} {out : Outcome α}
    (ran : a.run F s = (out, t)) {L : Log P} (right : Accounted s L) :
    ∃ M, a.Told F inside s L out t M ∧ Accounted t M := by
  induction h generalizing s t L with
  | pure a =>
    cases ran
    exact ⟨L, .pure right, right⟩
  | panic _ m =>
    cases ran
    exact ⟨L, .panic right, right⟩
  | note _ n =>
    cases ran
    exact ⟨L, .note right, right.of_handles_eq rfl⟩
  | world _ =>
    cases ran
    exact ⟨L, .world right, right.of_handles_eq rfl⟩
  | @bind _ _ x f hx hf ihx ihf =>
    change (x.run F >>= fun b => (f b).run F) s = (out, t) at ran
    rw [Exec.run_bind] at ran
    rcases run : x.run F s with ⟨b | m | w, u⟩ <;> rw [run] at ran <;>
      obtain ⟨M, first, later⟩ := ihx run right
    · obtain ⟨N, second, after⟩ := ihf b ran later
      exact ⟨N, .bind first second, after⟩
    · cases ran
      exact ⟨M, .bindPanic first, later⟩
    · cases ran
      exact ⟨M, .bindHalt first, later⟩
  | @attempt _ x hx ih =>
    change (x.run F).attempt s = (out, t) at ran
    unfold Exec.attempt at ran
    rcases run : x.run F s with ⟨b | m | w, u⟩ <;> rw [run] at ran <;> cases ran <;>
      obtain ⟨M, tried, later⟩ := ih run right
    · exact ⟨M, .attempt tried, later⟩
    · exact ⟨M, .attemptPanic tried, later⟩
    · exact ⟨M, .attemptHalt tried, later⟩
  | @op _ o hostly =>
    obtain ⟨ds, trail, accounts⟩ := o.run_accounts F s hostly
    change o.run F s = (out, t) at ran
    rw [ran] at trail accounts
    obtain ⟨M, told, after⟩ := trail.told nests right
    exact ⟨M, .op ran told accounts, after⟩
  | clear clears => exact clears.elim

/-! ### Executions -/

namespace System

/-- How a program runs with foreign code given as programs, nested less than `limit` deep, and with
the log: what is told inside a call of the host is what the calls of its program are told. -/
def Told (F : Foreign P (Act P)) :
    Nat → {α : Type} → Act P α → State P → Log P → Outcome α → State P → Log P → Prop
  | 0, _, _, s, L, out, t, M => out = .halt .nesting ∧ t = s ∧ M = L
  | limit + 1, _, a, s, L, out, t, M =>
    a.Told ((ofPrograms F).foreign limit)
      (fun ask s L t M => ∃ out u,
        Told F limit (ask.body F.host).program (ask.entered F.host s) L out u M ∧
        t.bridge = u.bridge) s L out t M

variable {F : Foreign P (Act P)}

theorem exec_told (lookups : F.LookupsWithin (.dynamic P)) (bodies : F.BodiesWithin (.dynamic P))
    {limit : Nat} {a : Act P α} (h : a.Within (.dynamic P)) {s t : State P} {out : Outcome α}
    (ran : (ofPrograms F).exec limit a s = (out, t)) {L : Log P} (right : Accounted s L) :
    ∃ M, Told F limit a s L out t M ∧ Accounted t M := by
  induction limit generalizing α s t L with
  | zero =>
    cases ran
    exact ⟨L, ⟨rfl, rfl, rfl⟩, right⟩
  | succ limit ih =>
    refine h.told (fun ask s L right => ?_) ran right
    obtain ⟨M, told, later⟩ := ih (ask.body_within lookups bodies) (s := ask.entered F.host s)
      (Prod.eta _).symm (right.of_handles_eq rfl)
    have same : (ask.run ((ofPrograms F).foreign limit).host s).2.bridge =
        (ask.answered F limit s).2.bridge := by
      rw [Ask.run_state, Ask.after_bridge]
    exact ⟨M, ⟨_, _, told, same⟩, later.of_handles_eq (congrArg Bridge.handles same)⟩

end System

/-! ### One program after another -/

/-- Programs run one after another with the log, up to the first that does not come back. -/
inductive System.TurnsTold (F : Foreign P (Act P)) (limit : Nat) :
    List (ThreadId × Act P Unit) → State P → Log P → State P → Log P → Prop
  | nil {s L} (right : Accounted s L) : TurnsTold F limit [] s L s L
  | turn {thread a rest s t u out L M N}
      (told : Told F limit a { s with thread := thread } L out t M) (back : ∀ w, out ≠ .halt w)
      (next : TurnsTold F limit rest t M u N) : TurnsTold F limit ((thread, a) :: rest) s L u N
  | stuck {thread a rest s t w L M}
      (told : Told F limit a { s with thread := thread } L (.halt w) t M) :
    TurnsTold F limit ((thread, a) :: rest) s L t M

namespace System

variable {F : Foreign P (Act P)}

theorem runTurns_told (lookups : F.LookupsWithin (.dynamic P))
    (bodies : F.BodiesWithin (.dynamic P)) (limit : Nat) {turns : List (ThreadId × Act P Unit)}
    (each : ∀ turn ∈ turns, turn.2.Within (.dynamic P)) {s : State P} {L : Log P}
    (right : Accounted s L) :
    ∃ M, TurnsTold F limit turns s L ((ofPrograms F).runTurns limit turns s) M ∧
      Accounted ((ofPrograms F).runTurns limit turns s) M := by
  induction turns generalizing s L with
  | nil => exact ⟨L, .nil right, right⟩
  | cons turn rest ih =>
    obtain ⟨thread, a⟩ := turn
    have within : a.Within (.dynamic P) := each _ List.mem_cons_self
    have later := @ih fun turn mem => each turn (List.mem_cons_of_mem _ mem)
    unfold runTurns
    rcases ran : (ofPrograms F).exec limit a { s with thread := thread } with ⟨r | m | w, t⟩ <;>
      obtain ⟨M, told, after⟩ := exec_told lookups bodies within ran (right.of_handles_eq rfl)
    · obtain ⟨N, next, finally_⟩ := later after
      exact ⟨N, .turn told (by simp) next, finally_⟩
    · obtain ⟨N, next, finally_⟩ := later after
      exact ⟨N, .turn told (by simp) next, finally_⟩
    · exact ⟨M, .stuck told, after⟩

end System

/-! ### The handles that are live -/

/-- What an operation keeps: one object if the host gave one that is asked for, under the handle
that the caller is told, and otherwise nothing, above all when it fails. -/
structure Operation.Keeping (F : Foreign P (Exec P)) (o : Operation α) (s : State P) : Prop where
  accounts : ∃ ds, Trail F s ds (o.op.run F s).2 ∧ o.Accounts (o.op.run F s).1 ds
  failed : ∀ e t, (o.attempt F).run s = (.value (.error e), t) →
    ∃ ds, Trail F s ds (o.op.run F s).2 ∧ ∀ d ∈ ds, o.Idle d

/-- The table gives the object of every handle that callers were told and that was not released
since, and holds nothing else. -/
structure HandleTable.Holds {α : Type} (t : HandleTable α)
    (log : List (Request α × Answer α)) : Prop where
  get : ∀ h o, (t.get h).1 = some o ↔ Behind log h o
  count : t.count = (live log).ncard

theorem HandleTable.Traces.holdsLive {α : Type} {t : HandleTable α}
    {log : List (Request α × Answer α)} (traces : t.Traces log) (small : t.issued < 2 ^ 63 - 1) :
    t.Holds log where
  get h o := by rw [traces.holds.get_eq small, traces.find]
  count := traces.ncard_live.symm

theorem Operation.keeping (F : Foreign P (Exec P)) (o : Operation α) (s : State P) :
    o.Keeping F s where
  accounts := o.run_accounts F s
  failed e t failed := by
    obtain ⟨ds, trail, attempted⟩ := o.attempt_tells s (F := F)
    rw [failed] at trail attempted
    have idle := attempted.idle nofun
    refine ⟨ds ++ [.reported (o.failure e)], ?_, idle_concat idle (idle_reported _)⟩
    rw [run_eq, Exec.run_bind, failed]
    exact trail.append (.own .reported .here)

/-- No handle is hidden. Over any host an operation keeps what the host gave it, if that is asked
for, and its caller is told the handle; every other dynamic call tells what it keeps and releases,
and a preload keeps nothing. Over programs that make such calls to any depth, what callers are told
makes a log that is right at every moment; so in the end the live handles are those that callers
were told, without those that were released since. -/
theorem System.handles_accounted (F : Foreign P (Act P)) (lookups : F.LookupsWithin (.dynamic P))
    (bodies : F.BodiesWithin (.dynamic P)) (limit : Nat) :
    (∀ (G : Foreign P (Exec P)) {α : Type} (o : Operation α) s, o.Keeping G s) ∧
    (∀ (G : Foreign P (Exec P)) {α : Type} (o : Op P α) s, o.isHostly = true →
      ∃ ds, Trail G s ds (o.run G s).2 ∧ o.Accounts (o.run G s).1 ds) ∧
    ∀ turns s, (∀ turn ∈ turns, turn.2.Within (.dynamic P)) → s.bridge.handles = {} →
      let t := (ofPrograms F).runTurns limit turns s
      ∃ L, TurnsTold F limit turns s [] t L ∧
        (t.bridge.handles.issued < 2 ^ 63 - 1 → t.bridge.handles.Holds L) := by
  refine ⟨fun G _ o s => o.keeping G s, fun G _ o s hostly => o.run_accounts G s hostly,
    fun turns s each empty => ?_⟩
  have right : Accounted s [] := fun _ => empty ▸ HandleTable.Traces.nil
  obtain ⟨L, told, after⟩ := runTurns_told lookups bodies limit each right
  exact ⟨L, told, fun small => (after small).holdsLive small⟩

namespace Plain

/-- An object is made, and on another thread its handle is copied and released. -/
def copies : List (ThreadId × Act platform Unit) :=
  [(0, creation),
    (1, (Act.op (.copyHandle ⟨1⟩)).bind fun _ => (Act.op (.release ⟨1⟩)).bind fun _ => pure ())]

theorem copies_within : ∀ turn ∈ copies, turn.2.Within (.dynamic platform) :=
  List.forall_mem_cons.mpr ⟨.bind (.op rfl) fun _ => .pure _, List.forall_mem_singleton.mpr
    (.bind (.op rfl) fun _ => .bind (.op rfl) fun _ => .pure _)⟩

theorem copies_left :
    let t := (System.ofPrograms idle).runTurns 2 copies start
    t.bridge.handles.issued < 2 ^ 63 - 1 ∧ t.bridge.handles.entries.map Prod.fst = [⟨2⟩] := by
  decide +kernel

end Plain

/-- In the plain world the copy of a handle is live, and the handle that was released is not. -/
theorem System.handles_accounted_plain :
    let t := (ofPrograms Plain.idle).runTurns 2 Plain.copies Plain.start
    Plain.idle.LookupsWithin (.dynamic _) ∧ Plain.idle.BodiesWithin (.dynamic _) ∧
      Plain.start.bridge.handles = {} ∧ t.bridge.handles.entries.map Prod.fst = [⟨2⟩] ∧
      ∃ L, TurnsTold Plain.idle 2 Plain.copies Plain.start [] t L ∧ t.bridge.handles.Holds L := by
  have lookups : Plain.idle.LookupsWithin (.dynamic _) := ⟨fun _ => .pure _, fun _ _ => .pure _⟩
  have bodies : Plain.idle.BodiesWithin (.dynamic _) :=
    ⟨fun _ _ _ => .pure _, fun _ _ _ _ => .pure _, fun _ _ _ => .world trivial,
      fun _ _ _ => .world trivial⟩
  obtain ⟨L, told, holds⟩ := (handles_accounted Plain.idle lookups bodies 2).2.2
    Plain.copies Plain.start Plain.copies_within rfl
  exact ⟨lookups, bodies, rfl, Plain.copies_left.2, L, told, holds Plain.copies_left.1⟩

end HostBridge
