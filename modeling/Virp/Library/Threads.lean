import Mathlib.Data.List.Basic
import Mathlib.Data.List.Induction

/-! # Interleaved programs over a shared state

A program is a tree: every node performs one atomic operation on a shared state and
goes on with its result.  A pool runs any number of programs at once; a run
interleaves their operations, starts further programs, and may crash, which ends every
program and keeps what the world says survives.  Its log records each operation with
the state it met.

A `Protocol` judges an operation by what the same program did before.  That a
program follows it is checked along its text (`Follows`, with a rule for each way a
program is built).
-/
namespace Threads

/-- Operations, each with the type of its result. -/
structure Interface where
  Op : Type
  Res : Op → Type

/-- A program that returns an `α`. -/
inductive Prog (I : Interface) (α : Type) : Type
  | done (a : α)
  | op (o : I.Op) (k : I.Res o → Prog I α)

variable {I : Interface} {α β σ ε ρ Stage : Type}

namespace Prog

/-- Go on with `f` where `p` returns. -/
def bind : Prog I α → (α → Prog I β) → Prog I β
  | .done a, f => f a
  | .op o k, f => .op o (fun r => (k r).bind f)

instance : Monad (Prog I) where
  pure := .done
  bind := .bind

/-- One operation, as a program. -/
def perform (o : I.Op) : Prog I (I.Res o) := .op o .done

/-- Run a program by itself: `act` says what each operation does to the state, `none` that it
cannot be performed. -/
def runAlone (act : σ → (o : I.Op) → Option (σ × I.Res o)) : Prog I α → σ → Option (σ × α)
  | .done a, s => some (s, a)
  | .op o k, s => (act s o).bind fun r => (k r.2).runAlone act r.1

section
variable {act : σ → (o : I.Op) → Option (σ × I.Res o)} {s : σ}

@[simp] theorem runAlone_pure (a : α) : (pure a : Prog I α).runAlone act s = some (s, a) := rfl

@[simp] theorem runAlone_perform (o : I.Op) : (perform o).runAlone act s = act s o := by
  rw [perform, runAlone]
  cases act s o <;> rfl

@[simp] theorem runAlone_bind (p : Prog I α) (f : α → Prog I β) :
    (p >>= f).runAlone act s =
      (p.runAlone act s).bind fun r => (f r.2).runAlone act r.1 := by
  change (p.bind f).runAlone act s = _
  induction p generalizing s with
  | done a => rfl
  | op o k ih =>
    rw [Prog.bind, runAlone, runAlone, Option.bind_assoc]
    exact congrArg _ (funext fun r => ih r.2)

end

/-- With results that `R` allows, the program can end with `a`. -/
def Returns (R : (o : I.Op) → I.Res o → Prop) (a : α) : Prog I α → Prop
  | .done b => b = a
  | .op o k => ∃ r, R o r ∧ (k r).Returns R a

/-- With results that `R` allows, the program can come to perform `o`. -/
def Performs (R : (o : I.Op) → I.Res o → Prop) (o : I.Op) : Prog I α → Prop
  | .done _ => False
  | .op o' k => o' = o ∨ ∃ r, R o' r ∧ (k r).Performs R o

section
variable {R : (o : I.Op) → I.Res o → Prop}

@[simp] theorem returns_pure {a b : α} : (pure a : Prog I α).Returns R b ↔ a = b := Iff.rfl

@[simp] theorem returns_perform {o : I.Op} {r : I.Res o} : (perform o).Returns R r ↔ R o r :=
  ⟨fun ⟨_, h, he⟩ => he ▸ h, fun h => ⟨r, h, rfl⟩⟩

@[simp] theorem returns_bind {p : Prog I α} {f : α → Prog I β} {b : β} :
    (p >>= f).Returns R b ↔ ∃ a, p.Returns R a ∧ (f a).Returns R b := by
  change (p.bind f).Returns R b ↔ _
  induction p with
  | done a => simp [Prog.bind, Returns]
  | op o k ih =>
    simp only [Prog.bind, Returns, ih]
    constructor
    · rintro ⟨r, hr, a, ha, hb⟩
      exact ⟨a, ⟨r, hr, ha⟩, hb⟩
    · rintro ⟨a, ⟨r, hr, ha⟩, hb⟩
      exact ⟨r, hr, a, ha, hb⟩

@[simp] theorem performs_perform {o o' : I.Op} : (perform o).Performs R o' ↔ o = o' := by
  simp [perform, Performs]

@[simp] theorem performs_bind {p : Prog I α} {f : α → Prog I β} {o : I.Op} :
    (p >>= f).Performs R o ↔ p.Performs R o ∨ ∃ a, p.Returns R a ∧ (f a).Performs R o := by
  change (p.bind f).Performs R o ↔ _
  induction p with
  | done a => simp [Prog.bind, Performs, Returns]
  | op o' k ih =>
    simp only [Prog.bind, Performs, Returns, ih]
    constructor
    · rintro (h | ⟨r, hr, h | ⟨a, ha, hf⟩⟩)
      · exact .inl (.inl h)
      · exact .inl (.inr ⟨r, hr, h⟩)
      · exact .inr ⟨a, ⟨r, hr, ha⟩, hf⟩
    · rintro ((h | ⟨r, hr, h⟩) | ⟨a, ⟨r, hr, ha⟩, hf⟩)
      · exact .inl h
      · exact .inr ⟨r, hr, .inl h⟩
      · exact .inr ⟨r, hr, .inr ⟨a, ha, hf⟩⟩

end

/-- Every operation of the program is one of `S`. -/
def Only (S : I.Op → Prop) : Prog I α → Prop
  | .done _ => True
  | .op o k => S o ∧ ∀ r, (k r).Only S

variable {S S' : I.Op → Prop}

@[simp] theorem only_perform {o : I.Op} : (perform o).Only S ↔ S o :=
  ⟨And.left, fun h => ⟨h, fun _ => trivial⟩⟩

theorem Only.bind {p : Prog I α} {f : α → Prog I β} (hp : p.Only S) (hf : ∀ a, (f a).Only S) :
    (p >>= f).Only S := by
  show (p.bind f).Only S
  induction p with
  | done a => exact hf a
  | op o k ih => exact ⟨hp.1, fun r => ih r (hp.2 r)⟩

end Prog

/-- How operations act.  `act i env s o` is what the operation `o` of thread `i`
does in the state `s`, under whatever else `env` decides; `none` means that it has to
wait.  `crash` is what is left of the state after a restart. -/
structure World (I : Interface) (σ ε : Type) where
  act : Nat → ε → σ → (o : I.Op) → Option (σ × I.Res o)
  crash : ε → σ → σ

/-- An operation that was performed, with the state it was performed in. -/
structure Event (I : Interface) (σ ε : Type) where
  thread : Nat
  env : ε
  before : σ
  op : I.Op
  res : I.Res op

/-- The shared state, the threads by number (`none` for one that a crash ended), and
the operations performed so far, oldest first. -/
structure Pool (I : Interface) (σ ε ρ : Type) where
  state : σ
  threads : List (Option (Prog I ρ))
  log : List (Event I σ ε)

/-- What can happen next: a program starts, a thread performs its next operation, or
everything crashes. -/
inductive Move (I : Interface) (ε ρ : Type)
  | spawn (p : Prog I ρ)
  | step (i : Nat) (env : ε)
  | crash (env : ε)

namespace Pool

/-- What a crash leaves of a thread: what it has returned. -/
def afterCrash : Option (Prog I ρ) → Option (Prog I ρ)
  | some (.done a) => some (.done a)
  | _ => none

/-- One move.  A thread that is not running, or has to wait, stays as it is. -/
def move (W : World I σ ε) (pool : Pool I σ ε ρ) : Move I ε ρ → Pool I σ ε ρ
  | .spawn p => { pool with threads := pool.threads ++ [some p] }
  | .step i env =>
    match pool.threads[i]? with
    | some (some (.op o k)) =>
      match W.act i env pool.state o with
      | some (s, r) =>
        ⟨s, pool.threads.set i (some (k r)), pool.log ++ [⟨i, env, pool.state, o, r⟩]⟩
      | none => pool
    | _ => pool
  | .crash env => { pool with
      state := W.crash env pool.state
      threads := pool.threads.map afterCrash }

end Pool

/-- The pool after a run from the state `s₀`. -/
def run (W : World I σ ε) (s₀ : σ) (moves : List (Move I ε ρ)) : Pool I σ ε ρ :=
  moves.foldl (Pool.move W) ⟨s₀, [], []⟩

variable {W : World I σ ε} {s₀ : σ} {moves : List (Move I ε ρ)}

/-- **The invariant rule**: what holds of the state and the log at the start, and is kept by every
operation and by every crash of the run, holds after the run. -/
theorem run_invariant {J : σ → List (Event I σ ε) → Prop} (h0 : J s₀ [])
    (hstep : ∀ i env s o s' r log, J s log → W.act i env s o = some (s', r) →
      J s' (log ++ [⟨i, env, s, o, r⟩]))
    (hcrash : ∀ env s log, .crash env ∈ moves → J s log → J (W.crash env s) log) :
    J (run W s₀ moves).state (run W s₀ moves).log := by
  refine List.foldlRecOn (motive := fun pool => J pool.state pool.log) (b := ⟨s₀, [], []⟩) moves
    (Pool.move W) h0 fun pool h m hm => ?_
  cases m with
  | spawn p => exact h
  | crash env => exact hcrash env _ _ hm h
  | step i env =>
    simp only [Pool.move]
    split
    · split
      · next s' r hact => exact hstep i env _ _ s' r _ h hact
      · exact h
    · exact h

/-! ## Protocols -/

/-- A rule for single threads: `next` sums up what a thread has done, and `allows`
says which operations may come then. -/
structure Protocol (I : Interface) (Stage : Type) where
  init : Stage
  next : Stage → (o : I.Op) → I.Res o → Stage
  allows : Stage → I.Op → Prop

namespace Protocol

/-- From the given stage on, the program performs allowed operations only, whatever
their results; and it returns with `post`. -/
def Follows (P : Protocol I Stage) (post : α → Stage → Prop) : Stage → Prog I α → Prop
  | st, .done a => post a st
  | st, .op o k => P.allows st o ∧ ∀ r, Follows P post (P.next st o r) (k r)

variable {P : Protocol I Stage} {post : α → Stage → Prop} {st : Stage}

theorem Follows.mono {post' : α → Stage → Prop} (h : ∀ a st, post a st → post' a st)
    {p : Prog I α} (hp : P.Follows post st p) : P.Follows post' st p := by
  induction p generalizing st with
  | done a => exact h a st hp
  | op o k ih => exact ⟨hp.1, fun r => ih r (hp.2 r)⟩

/-- **The rule for sequencing.** -/
@[simp] theorem follows_bind {post : β → Stage → Prop} {p : Prog I α} {f : α → Prog I β} :
    P.Follows post st (p >>= f) ↔ P.Follows (fun a st => P.Follows post st (f a)) st p := by
  show P.Follows post st (p.bind f) ↔ _
  induction p generalizing st with
  | done a => exact Iff.rfl
  | op o k ih => exact and_congr_right fun _ => forall_congr' fun r => ih r

/-- **The rule for operations a protocol ignores**: a program made of operations that
are allowed in every stage `J` holds of, and keep `J`, returns with `J`. -/
theorem follows_of_only {S : I.Op → Prop} {J : Stage → Prop}
    (hS : ∀ st o, J st → S o → P.allows st o ∧ ∀ r, J (P.next st o r)) {p : Prog I α}
    (hp : p.Only S) (hst : J st) : P.Follows (fun _ st => J st) st p := by
  induction p generalizing st with
  | done a => exact hst
  | op o k ih =>
    obtain ⟨ha, hn⟩ := hS st o hst hp.1
    exact ⟨ha, fun r => ih r (hp.2 r) (hn r)⟩

/-- From the given stage on, with some results of its operations, the program can end with `a` at
the stage `st'`. -/
def Ends (P : Protocol I Stage) (a : α) (st' : Stage) : Stage → Prog I α → Prop
  | st, .done b => b = a ∧ st = st'
  | st, .op o k => ∃ r, Ends P a st' (P.next st o r) (k r)

theorem ends_pure (a : α) : P.Ends a st st (pure a) := ⟨rfl, rfl⟩

theorem Ends.bind {p : Prog I α} {f : α → Prog I β} {a : α} {b : β} {st' st'' : Stage}
    (hp : P.Ends a st' st p) (hf : P.Ends b st'' st' (f a)) : P.Ends b st'' st (p >>= f) := by
  show P.Ends b st'' st (p.bind f)
  induction p generalizing st with
  | done a' =>
    obtain ⟨rfl, rfl⟩ := hp
    exact hf
  | op o k ih =>
    obtain ⟨r, hr⟩ := hp
    exact ⟨r, ih r hr⟩

/-- What a program that follows a protocol ends with. -/
theorem Follows.ends {p : Prog I α} {a : α} {st' : Stage} (h : P.Follows post st p)
    (he : P.Ends a st' st p) : post a st' := by
  induction p generalizing st with
  | done b =>
    obtain ⟨rfl, rfl⟩ := he
    exact h
  | op o k ih =>
    obtain ⟨r, hr⟩ := he
    exact ih r (h.2 r) hr

end Protocol

end Threads
