import HostBridge.Bridge.Program

/-!
Programs with and without a cache. With the cache, a program runs as the bridge has it; without it,
every dynamic operation has the host look up its type and its member.
-/
namespace HostBridge

open Call

variable {P : Platform} {α : Type}

/-! ### The interface and programs -/

/-- What a call of the interface does with types and members from where `R` says. -/
def Op.runBy (R : Resolution) (F : Foreign P (Exec P)) : Op P α → Exec P α
  | createObject className signature words =>
    Dynamic.settleNew className signature (construct F className signature words R)
  | callMethod target className name signature requested words =>
    Dynamic.settle target.callName className name
      (invoke F target className name signature requested words R)
  | getField target className name descriptor requested =>
    Dynamic.settle target.getName className name
      (read F target className name descriptor requested R)
  | setField target className name descriptor requested w =>
    Dynamic.settleWrite target.setName className name
      (write F target className name descriptor requested w R)
  | preload key => (Call.preload F key R).run
  | clearMembers => R.clear F
  | o => o.run F

/-- What a program does with types and members from where `R` says. -/
def Act.runBy (R : Resolution) (F : Foreign P (Exec P)) {α : Type} : Act P α → Exec P α
  | .pure a => Pure.pure a
  | .bind x f => x.runBy R F >>= fun b => (f b).runBy R F
  | .panic m => Exec.panic m
  | .attempt x => (x.runBy R F).attempt
  | .note n => recordNote n
  | .world f => useWorld f
  | .op o => Op.runBy R F o
  | .extra o => F.extra o

/-- Runs a program with types and members from where `R` says, in nested foreign code too. -/
def System.execBy (R : Resolution) (S : System P) {α : Type} : Nat → Act P α → Exec P α
  | 0, _ => Exec.halt .nesting
  | limit + 1, a => a.runBy R (S (fun b => execBy R S limit b))

/-! ### With the cache -/

theorem Op.runBy_cached (F : Foreign P (Exec P)) (o : Op P α) : o.runBy .cached F = o.run F := by
  cases o <;> rfl

theorem Act.runBy_cached (F : Foreign P (Exec P)) (a : Act P α) : a.runBy .cached F = a.run F := by
  induction a with
  | bind x f ihx ihf =>
    simp only [runBy, run, ihx, ihf]
  | attempt x ih => simp only [runBy, run, ih]
  | op o => exact Op.runBy_cached F o
  | _ => rfl

/-- With the cache, a program runs as the system has it. -/
theorem System.execBy_cached (S : System P) (limit : Nat) (a : Act P α) :
    S.execBy .cached limit a = S.exec limit a := by
  induction limit generalizing α with
  | zero => rfl
  | succ limit ih =>
    have nested : (fun {β : Type} (b : Act P β) => S.execBy .cached limit b) =
        fun {β : Type} (b : Act P β) => S.exec limit b := by
      funext β b
      exact ih b
    unfold execBy exec
    rw [nested]
    exact Act.runBy_cached _ a

end HostBridge
