import Virp.Library.Machine
import Mathlib.Logic.ExistsUnique

/-! # The pool of workers

The accept loop takes a unit of the semaphore for each connection, registers the connection's
descriptor and counts the worker as live, and only then creates its thread; a worker clears its slot
and its count before it gives the unit back.  At shutdown the accept loop waits until no worker is
live, for a limited time.

Each event is one operation on the semaphore or one critical section.  An event that cannot happen
in a state leaves it, so that every list of events is an interleaving.
-/
namespace Virp

open List Machine

/-- Where a worker is: its thread does not exist yet, it handles its client, it has run its exit
section, or it has given its unit back. -/
inductive WorkerStage where
  | starting | running | cleared | done
deriving DecidableEq, Repr

/-- A worker, with `arg->slot`; without a slot it is -1. -/
structure PoolWorker where
  slot : Option Nat
  stage : WorkerStage
deriving DecidableEq, Repr

/-- Where the accept loop is. -/
inductive AcceptPhase where
  | accepting
  /-- `sem_trywait` has taken a unit -/
  | reserved
  /-- the worker is registered, and `pthread_create` is called -/
  | creating (worker : Nat)
  /-- `pthread_create` has failed -/
  | undoing (worker : Nat)
  /-- the registration is undone, and the unit is still taken -/
  | posting
  /-- waiting on `workers_cv`, woken or not -/
  | draining (woken : Bool)
  /-- the wait has ended, with `live_final` -/
  | drained (liveFinal : Nat) (timedOut : Bool)
deriving DecidableEq, Repr

/-- `worker_sem`, `worker_fds` and `workers_live` of an `onode_state_t`, and the threads. -/
structure WorkerPool where
  sem : Nat
  fds : List (Option Nat)
  live : Nat
  workers : List PoolWorker
  phase : AcceptPhase
deriving DecidableEq, Repr

/-- The pool as `onode_init` leaves it, with `ONODE_MAX_WORKERS` units. -/
def WorkerPool.init (maxWorkers : Nat) : WorkerPool where
  sem := maxWorkers
  fds := List.replicate maxWorkers none
  live := 0
  workers := []
  phase := .accepting

inductive PoolEvent where
  /-- a connection is accepted -/
  | tryWait
  | mallocFails
  /-- the section that registers the descriptor `dup` returned, if it did -/
  | register (fd : Option Nat)
  | created
  | createFails
  | undo
  | undoPost
  /-- the exit section of a worker -/
  | exit (worker : Nat)
  | post (worker : Nat)
  /-- the accept loop ends -/
  | shutdown
  /-- `pthread_cond_timedwait` returns, for a broadcast or for no reason -/
  | wake
  | timeout
deriving DecidableEq, Repr

namespace WorkerPool

def setStage (p : WorkerPool) (i : Nat) (stage : WorkerStage) : WorkerPool :=
  { p with workers := p.workers.modify i (fun w => { w with stage := stage }) }

/-- A write to `worker_fds`, unless the slot is -1. -/
def putSlot (fds : List (Option Nat)) (slot : Option Nat) (fd : Option Nat) : List (Option Nat) :=
  match slot with
  | some s => fds.modify s (fun _ => fd)
  | none => fds

/-- The sections of a worker's exit and of a failed start: the slot is cleared, the worker is no
longer counted, and the last one wakes the drain. -/
def release (p : WorkerPool) (slot : Option Nat) : WorkerPool :=
  let live := if 0 < p.live then p.live - 1 else p.live
  { p with
    fds := putSlot p.fds slot none
    live := live
    phase := match p.phase with
      | .draining woken => .draining (woken || live == 0)
      | phase => phase }

/-- The loop over the slots and the count. -/
def register (p : WorkerPool) (fd : Option Nat) : WorkerPool :=
  let slot := if fd.isSome then p.fds.findIdx? Option.isNone else none
  { p with
    fds := putSlot p.fds slot fd
    live := p.live + 1
    workers := p.workers ++ [⟨slot, .starting⟩]
    phase := .creating p.workers.length }

/-- The condition of the drain's loop. -/
def drainTest (p : WorkerPool) (timedOut : Bool) : WorkerPool :=
  { p with phase := if 0 < p.live ∧ timedOut = false then .draining false
      else .drained p.live timedOut }

/-- What an event does where it can happen. -/
def next (p : WorkerPool) : PoolEvent → Option WorkerPool
  | .tryWait =>
    if p.phase = .accepting then
      if 0 < p.sem then some { p with sem := p.sem - 1, phase := .reserved } else some p
    else none
  | .mallocFails =>
    if p.phase = .reserved then some { p with sem := p.sem + 1, phase := .accepting } else none
  | .register fd => if p.phase = .reserved then some (p.register fd) else none
  | .created =>
    match p.phase with
    | .creating i => some { p.setStage i .running with phase := .accepting }
    | _ => none
  | .createFails =>
    match p.phase with
    | .creating i => some { p with phase := .undoing i }
    | _ => none
  | .undo =>
    match p.phase with
    | .undoing i =>
      match p.workers[i]? with
      | some w => some { (p.setStage i .done).release w.slot with phase := .posting }
      | none => none
    | _ => none
  | .undoPost =>
    if p.phase = .posting then some { p with sem := p.sem + 1, phase := .accepting } else none
  | .exit i =>
    match p.workers[i]? with
    | some ⟨slot, .running⟩ => some ((p.setStage i .cleared).release slot)
    | _ => none
  | .post i =>
    match p.workers[i]? with
    | some ⟨_, .cleared⟩ => some { p.setStage i .done with sem := p.sem + 1 }
    | _ => none
  | .shutdown => if p.phase = .accepting then some (p.drainTest false) else none
  | .wake =>
    match p.phase with
    | .draining _ => some (p.drainTest false)
    | _ => none
  | .timeout =>
    match p.phase with
    | .draining _ => some (p.drainTest true)
    | _ => none

/-- One event, and whether it happened. -/
def step (p : WorkerPool) (e : PoolEvent) : WorkerPool × Bool :=
  ((p.next e).getD p, (p.next e).isSome)

end WorkerPool

/-! ## What is counted -/

/-- The worker is registered, and has not run its exit section. -/
def PoolWorker.isLive (w : PoolWorker) : Bool := w.stage = .starting ∨ w.stage = .running

/-- The worker has not given its unit back. -/
def PoolWorker.holdsUnit (w : PoolWorker) : Bool := w.stage ≠ .done

/-- The accept loop has a unit that no worker has. -/
def AcceptPhase.holdsUnit : AcceptPhase → Bool
  | .reserved => true
  | .posting => true
  | _ => false

namespace WorkerPool

/-- The connections that hold a unit of the semaphore. -/
def held (p : WorkerPool) : Nat := p.workers.countP PoolWorker.holdsUnit + p.phase.holdsUnit.toNat

/-- The descriptor slot is in use. -/
def Registered (p : WorkerPool) (s : Nat) : Prop := ∃ fd, p.fds[s]? = some (some fd)

/-- The slot belongs to the worker, and the worker is live. -/
def Owns (p : WorkerPool) (i s : Nat) : Prop :=
  ∃ w, p.workers[i]? = some w ∧ w.isLive = true ∧ w.slot = some s

/-- What holds of the count, the slots and the workers. -/
structure Accounted (maxWorkers : Nat) (p : WorkerPool) : Prop where
  live_eq : p.live = p.workers.countP PoolWorker.isLive
  length_fds : p.fds.length = maxWorkers
  registered_count : p.fds.countP Option.isSome =
    p.workers.countP (fun w => w.isLive && w.slot.isSome)
  registered : ∀ i s, p.Owns i s → p.Registered s
  owned : ∀ s, p.Registered s → ∃ i, p.Owns i s
  unique : ∀ i j s, p.Owns i s → p.Owns j s → i = j

/-- What holds of the pool between any two events. -/
structure Balanced (maxWorkers : Nat) (p : WorkerPool) : Prop where
  accounted : p.Accounted maxWorkers
  units : p.sem + p.held = maxWorkers
  starting : ∀ i, (p.phase = .creating i ∨ p.phase = .undoing i) →
    ∃ w, p.workers[i]? = some w ∧ w.stage = .starting
  waiting : p.phase = .draining false → 0 < p.live
  ended : ∀ n timedOut, p.phase = .drained n timedOut →
    (n = 0 → p.live = 0) ∧ (0 < n → timedOut = true)

end WorkerPool

namespace WorkerPool

section
variable {maxWorkers i : Nat} {p q : WorkerPool} {w : PoolWorker}

theorem Accounted.congr (h : p.Accounted maxWorkers) (hfds : q.fds = p.fds) (hlive : q.live = p.live)
    (hworkers : q.workers = p.workers) : q.Accounted maxWorkers := by
  obtain ⟨sem, fds, live, workers, phase⟩ := q
  dsimp only at hfds hlive hworkers
  subst hfds hlive hworkers
  exact ⟨h.live_eq, h.length_fds, h.registered_count, h.registered, h.owned, h.unique⟩

theorem owns_setStage (hw : p.workers[i]? = some w) (stage : WorkerStage) (j s : Nat) :
    (p.setStage i stage).Owns j s ↔
      if j = i then PoolWorker.isLive ⟨w.slot, stage⟩ = true ∧ w.slot = some s else p.Owns j s := by
  unfold Owns setStage
  rw [getElem?_modify]
  by_cases hj : j = i
  · subst hj
    simp [hw]
  · simp [hj, Ne.symm hj]

/-- A worker that changes its stage and stays live, or stays not live. -/
theorem Accounted.setStage (h : p.Accounted maxWorkers) (hw : p.workers[i]? = some w)
    (stage : WorkerStage) (hlive : PoolWorker.isLive ⟨w.slot, stage⟩ = w.isLive) :
    (p.setStage i stage).Accounted maxWorkers := by
  have howns : ∀ j s, (p.setStage i stage).Owns j s ↔ p.Owns j s := by
    intro j s
    rw [owns_setStage hw, hlive]
    split_ifs with hj
    · simp [Owns, hj, hw]
    · rfl
  have hcount : ∀ f : PoolWorker → Bool, f ⟨w.slot, stage⟩ = f w →
      (p.setStage i stage).workers.countP f = p.workers.countP f := by
    intro f hf
    have := countP_modify f (fun w : PoolWorker => { w with stage := stage }) hw
    rw [hf] at this
    exact Nat.add_right_cancel this
  constructor
  · rw [hcount _ hlive]
    exact h.live_eq
  · exact h.length_fds
  · rw [hcount _ (by dsimp only; rw [hlive])]
    exact h.registered_count
  · exact fun j s hj => h.registered j s ((howns j s).mp hj)
  · intro s hs
    obtain ⟨j, hj⟩ := h.owned s hs
    exact ⟨j, (howns j s).mpr hj⟩
  · exact fun j k s hj hk => h.unique j k s ((howns j s).mp hj) ((howns k s).mp hk)

section
variable {fds : List (Option Nat)} {slot : Option Nat}

@[simp] theorem length_putSlot (fd : Option Nat) : (putSlot fds slot fd).length = fds.length := by
  cases slot with
  | none => rfl
  | some s => exact length_modify _ _ _

theorem getElem_putSlot (fd : Option Nat) (t : Nat) :
    (putSlot fds slot fd)[t]? = if slot = some t then (fds[t]?).map (fun _ => fd) else fds[t]? := by
  cases slot with
  | none => rfl
  | some s =>
    rw [putSlot, getElem?_modify]
    by_cases hst : s = t <;> simp [hst]

/-- What the descriptors count after a write to a slot that had `old`. -/
theorem countP_putSlot {s : Nat} {old : Option Nat} (h : fds[s]? = some old) (fd : Option Nat) :
    (putSlot fds (some s) fd).countP Option.isSome + old.isSome.toNat =
      fds.countP Option.isSome + fd.isSome.toNat :=
  countP_modify Option.isSome (fun _ => fd) h

end

/-- A live worker is released. -/
theorem Accounted.release (h : p.Accounted maxWorkers) (hw : p.workers[i]? = some w)
    (hlive : w.isLive = true) {stage : WorkerStage}
    (hdead : PoolWorker.isLive ⟨w.slot, stage⟩ = false) :
    ((p.setStage i stage).release w.slot).Accounted maxWorkers := by
  have howns : ∀ j s, ((p.setStage i stage).release w.slot).Owns j s ↔ j ≠ i ∧ p.Owns j s := by
    intro j s
    refine (owns_setStage hw stage j s).trans ?_
    by_cases hj : j = i
    · simp [hj, hdead]
    · simp [hj]
  have hregistered : ∀ s, ((p.setStage i stage).release w.slot).Registered s ↔
      p.Registered s ∧ w.slot ≠ some s := by
    intro s
    change (∃ fd, (putSlot p.fds w.slot none)[s]? = some (some fd)) ↔ _
    rw [getElem_putSlot]
    by_cases hs : w.slot = some s <;> simp [hs, Registered]
  have hcount := countP_modify PoolWorker.isLive (fun w : PoolWorker => { w with stage := stage }) hw
  have hcount' := countP_modify (fun w => w.isLive && w.slot.isSome)
    (fun w : PoolWorker => { w with stage := stage }) hw
  rw [hlive, hdead] at hcount
  simp only [hlive, hdead, Bool.true_and, Bool.false_and, Bool.toNat_false, Bool.toNat_true,
    Nat.add_zero] at hcount hcount'
  constructor
  · change (if 0 < p.live then p.live - 1 else p.live) = (p.workers.modify i _).countP _
    rw [h.live_eq]
    split_ifs <;> omega
  · exact (length_putSlot none).trans h.length_fds
  · change (putSlot p.fds w.slot none).countP _ = (p.workers.modify i _).countP _
    cases hslot : w.slot with
    | none =>
      rw [hslot] at hcount'
      exact h.registered_count.trans (Nat.add_right_cancel hcount').symm
    | some s =>
      obtain ⟨fd, hfd⟩ := h.registered i s ⟨w, hw, hlive, hslot⟩
      have hfds := countP_putSlot hfd none
      rw [hslot] at hcount'
      have := h.registered_count
      simp only [Option.isSome_some, Option.isSome_none, Bool.toNat_true, Bool.toNat_false]
        at hfds hcount'
      omega
  · intro j s hj
    obtain ⟨hji, hj⟩ := (howns j s).mp hj
    refine (hregistered s).mpr ⟨h.registered j s hj, ?_⟩
    intro hslot
    exact hji (h.unique j i s hj ⟨w, hw, hlive, hslot⟩)
  · intro s hs
    obtain ⟨hs, hslot⟩ := (hregistered s).mp hs
    obtain ⟨j, hj⟩ := h.owned s hs
    refine ⟨j, (howns j s).mpr ⟨?_, hj⟩⟩
    rintro rfl
    obtain ⟨v, hv, -, hvs⟩ := hj
    obtain rfl := Option.mem_unique hw hv
    exact hslot hvs
  · exact fun j k s hj hk => h.unique j k s ((howns j s).mp hj).2 ((howns k s).mp hk).2

theorem owns_concat (v : PoolWorker) (j s : Nat) :
    ({ p with workers := p.workers ++ [v] } : WorkerPool).Owns j s ↔
      p.Owns j s ∨ (j = p.workers.length ∧ v.isLive = true ∧ v.slot = some s) := by
  unfold Owns
  rcases Nat.lt_trichotomy j p.workers.length with hj | rfl | hj
  · simp [getElem?_append_left hj, Nat.ne_of_lt hj]
  · simp
  have hlen : (p.workers ++ [v]).length ≤ j := by
    rw [length_append, length_singleton]
    exact hj
  simp [getElem?_eq_none hlen, getElem?_eq_none (Nat.le_of_lt hj), Nat.ne_of_gt hj]

/-- A worker is registered. -/
theorem Accounted.register (h : p.Accounted maxWorkers) (fd : Option Nat) :
    (p.register fd).Accounted maxWorkers := by
  unfold WorkerPool.register
  set slot := if fd.isSome then p.fds.findIdx? Option.isNone else none with hslot
  have howns := owns_concat (p := p) ⟨slot, .starting⟩
  -- a slot that is taken was free, and the descriptor is one
  have hfree : ∀ s, slot = some s → p.fds[s]? = some none ∧ fd.isSome = true := by
    intro s hs
    rw [hslot] at hs
    split_ifs at hs with hfd
    obtain ⟨hlt, hnone, -⟩ := findIdx?_eq_some_iff_getElem.mp hs
    exact ⟨by rw [getElem?_eq_getElem hlt, Option.isNone_iff_eq_none.mp hnone], hfd⟩
  have hregistered : ∀ t, (∃ x, (putSlot p.fds slot fd)[t]? = some (some x)) ↔
      p.Registered t ∨ slot = some t := by
    intro t
    rw [getElem_putSlot]
    by_cases ht : slot = some t
    · obtain ⟨hnone, hfd⟩ := hfree t ht
      obtain ⟨x, rfl⟩ := Option.isSome_iff_exists.mp hfd
      simp [ht, hnone]
    · simp [ht, Registered]
  constructor
  · change p.live + 1 = (p.workers ++ [_]).countP _
    rw [countP_append, ← h.live_eq]
    rfl
  · exact (length_putSlot fd).trans h.length_fds
  · change (putSlot p.fds slot fd).countP _ = (p.workers ++ [_]).countP _
    rw [countP_append, ← h.registered_count]
    cases hs : slot with
    | none => rfl
    | some s =>
      obtain ⟨hnone, hfd⟩ := hfree s hs
      have := countP_putSlot hnone fd
      rw [hfd] at this
      exact this
  · intro j t hj
    refine (hregistered t).mpr ?_
    rcases (howns j t).mp hj with hj | ⟨-, -, hj⟩
    · exact .inl (h.registered j t hj)
    · exact .inr hj
  · intro t ht
    rcases (hregistered t).mp ht with ht | ht
    · obtain ⟨j, hj⟩ := h.owned t ht
      exact ⟨j, (howns j t).mpr (.inl hj)⟩
    · exact ⟨p.workers.length, (howns _ t).mpr (.inr ⟨rfl, rfl, ht⟩)⟩
  · intro j k t hj hk
    -- the slot the worker takes was nobody's
    have hnew : ∀ j, p.Owns j t → slot ≠ some t := by
      intro j hj ht
      obtain ⟨x, hx⟩ := h.registered j t hj
      rw [(hfree t ht).1] at hx
      cases hx
    rcases (howns j t).mp hj with hj | ⟨rfl, -, hj⟩
    · rcases (howns k t).mp hk with hk | ⟨-, -, hk⟩
      · exact h.unique j k t hj hk
      · exact absurd hk (hnew j hj)
    · rcases (howns k t).mp hk with hk | ⟨rfl, -, -⟩
      · exact absurd hj (hnew k hk)
      · rfl

/-! ## Runs -/

theorem balanced_init (maxWorkers : Nat) : (init maxWorkers).Balanced maxWorkers := by
  have hnone : ∀ s, ¬ (init maxWorkers).Registered s := by
    rintro s ⟨fd, hfd⟩
    rw [init, getElem?_replicate] at hfd
    split_ifs at hfd
    cases hfd
  have howns : ∀ i s, ¬ (init maxWorkers).Owns i s := by
    rintro i s ⟨w, hw, -⟩
    cases hw
  refine ⟨⟨rfl, length_replicate, ?_, ?_, ?_, ?_⟩, rfl, ?_, ?_, ?_⟩
  · simp [init, countP_replicate]
  · exact fun i s h => absurd h (howns i s)
  · exact fun s h => absurd h (hnone s)
  · exact fun i j s h => absurd h (howns i s)
  · rintro i (h | h) <;> cases h
  · intro h
    cases h
  · intro n timedOut h
    cases h

/-- The wait ends, or goes on, where it holds no unit. -/
theorem Balanced.drainTest (h : p.Balanced maxWorkers) (hphase : p.phase.holdsUnit = false)
    (timedOut : Bool) : (p.drainTest timedOut).Balanced maxWorkers := by
  have hheld : (p.drainTest timedOut).held = p.held := by
    unfold held WorkerPool.drainTest
    rw [hphase]
    split_ifs <;> rfl
  refine ⟨h.accounted.congr rfl rfl rfl, hheld ▸ h.units, ?_, ?_, ?_⟩
  · intro i hi
    unfold WorkerPool.drainTest at hi
    split_ifs at hi <;> rcases hi with hi | hi <;> cases hi
  · intro hwait
    unfold WorkerPool.drainTest at hwait
    split_ifs at hwait with hlive
    exact hlive.1
  · intro n b hended
    unfold WorkerPool.drainTest at hended
    split_ifs at hended with hlive
    cases hended
    refine ⟨id, fun hpos => ?_⟩
    by_contra hb
    exact hlive ⟨hpos, Bool.eq_false_iff.mpr hb⟩

theorem countP_holdsUnit_setStage (hw : p.workers[i]? = some w) (stage : WorkerStage) :
    (p.setStage i stage).workers.countP PoolWorker.holdsUnit + w.holdsUnit.toNat =
      p.workers.countP PoolWorker.holdsUnit + (PoolWorker.holdsUnit ⟨w.slot, stage⟩).toNat :=
  countP_modify PoolWorker.holdsUnit (fun w : PoolWorker => { w with stage := stage }) hw

/-- The worker that is being created is not one that runs or has run. -/
theorem getElem_setStage_starting {j : Nat} {v : PoolWorker} (hw : p.workers[i]? = some w)
    (hstage : w.stage ≠ .starting) (hv : p.workers[j]? = some v) (hstarting : v.stage = .starting)
    (stage : WorkerStage) : (p.setStage i stage).workers[j]? = some v := by
  have hij : i ≠ j := by
    rintro rfl
    obtain rfl := Option.mem_unique hw hv
    exact hstage hstarting
  unfold setStage
  rw [getElem?_modify_ne _ _ hij, hv]

section
variable (h : p.Balanced maxWorkers)
include h

/-- The exit section of a worker. -/
theorem Balanced.exit {slot : Option Nat} (hw : p.workers[i]? = some ⟨slot, .running⟩) :
    ((p.setStage i .cleared).release slot).Balanced maxWorkers := by
  have hlive := h.accounted.live_eq
  have hpos : 0 < p.live := by
    rw [hlive, countP_pos_iff]
    exact ⟨_, mem_of_getElem? hw, rfl⟩
  have hphase : ((p.setStage i .cleared).release slot).phase.holdsUnit = p.phase.holdsUnit := by
    unfold WorkerPool.release setStage
    cases p.phase <;> rfl
  refine ⟨h.accounted.release hw rfl rfl, ?_, ?_, ?_, ?_⟩
  · have hcount := countP_holdsUnit_setStage hw .cleared
    have hunits := h.units
    unfold held at hunits ⊢
    rw [hphase]
    change p.sem + ((p.setStage i .cleared).workers.countP _ + _) = maxWorkers
    simp only [PoolWorker.holdsUnit] at hcount hunits ⊢
    simp at hcount
    omega
  · intro j hj
    have hj' : p.phase = .creating j ∨ p.phase = .undoing j := by
      revert hj
      unfold WorkerPool.release setStage
      cases p.phase <;> simp
    obtain ⟨v, hv, hstarting⟩ := h.starting j hj'
    exact ⟨v, getElem_setStage_starting hw (by simp) hv hstarting .cleared, hstarting⟩
  · intro hwait
    revert hwait
    unfold WorkerPool.release setStage
    cases p.phase <;> simp
    omega
  · intro n timedOut hended
    have hended' : p.phase = .drained n timedOut := by
      revert hended
      unfold WorkerPool.release setStage
      cases p.phase <;> simp
    have := h.ended n timedOut hended'
    refine ⟨fun hn => ?_, this.2⟩
    exact absurd (this.1 hn) (Nat.ne_of_gt hpos)

/-- A unit moves between the semaphore and the accept loop, or only the place of the loop
changes. -/
theorem Balanced.movePhase {sem : Nat} {phase : AcceptPhase}
    (hunits : sem + phase.holdsUnit.toNat = p.sem + p.phase.holdsUnit.toNat)
    (hphase : phase = .accepting ∨ phase = .reserved ∨ ∃ i, p.phase = .creating i ∧ phase = .undoing i) :
    ({ p with sem := sem, phase := phase } : WorkerPool).Balanced maxWorkers := by
  refine ⟨h.accounted.congr rfl rfl rfl, ?_, ?_, ?_, ?_⟩
  · have := h.units
    unfold held at this ⊢
    dsimp only
    omega
  · intro i hi
    rcases hphase with rfl | rfl | ⟨j, hj, rfl⟩
    · rcases hi with hi | hi <;> cases hi
    · rcases hi with hi | hi <;> cases hi
    · rcases hi with hi | hi <;> cases hi
      exact h.starting i (.inl hj)
  · intro hwait
    rcases hphase with rfl | rfl | ⟨j, -, rfl⟩ <;> cases hwait
  · intro n timedOut hended
    rcases hphase with rfl | rfl | ⟨j, -, rfl⟩ <;> cases hended

theorem Balanced.register (hphase : p.phase = .reserved) (fd : Option Nat) :
    (p.register fd).Balanced maxWorkers := by
  refine ⟨h.accounted.register fd, ?_, ?_, ?_, ?_⟩
  · have hunits := h.units
    unfold held at hunits ⊢
    rw [hphase] at hunits
    unfold WorkerPool.register
    dsimp only
    rw [countP_append]
    exact hunits
  · intro i hi
    rcases hi with hi | hi <;> cases hi
    exact ⟨_, getElem?_concat_length, rfl⟩
  · intro hwait
    cases hwait
  · intro n timedOut hended
    cases hended

theorem Balanced.created (hphase : p.phase = .creating i) :
    ({ p.setStage i .running with phase := .accepting } : WorkerPool).Balanced maxWorkers := by
  obtain ⟨⟨slot, stage⟩, hw, hstage⟩ := h.starting i (.inl hphase)
  obtain rfl : stage = .starting := hstage
  refine ⟨(h.accounted.setStage hw .running rfl).congr rfl rfl rfl, ?_, ?_, ?_, ?_⟩
  · have hcount := countP_holdsUnit_setStage hw .running
    have hunits := h.units
    unfold held at hunits ⊢
    rw [hphase] at hunits
    have hsame := Nat.add_right_cancel hcount
    dsimp only
    rw [hsame]
    exact hunits
  · intro j hj
    rcases hj with hj | hj <;> cases hj
  · intro hwait
    cases hwait
  · intro n timedOut hended
    cases hended

theorem Balanced.undo (hphase : p.phase = .undoing i) (hw : p.workers[i]? = some w) :
    ({ (p.setStage i .done).release w.slot with phase := .posting } : WorkerPool).Balanced
      maxWorkers := by
  obtain ⟨v, hv, hstage⟩ := h.starting i (.inr hphase)
  obtain rfl := Option.mem_unique hw hv
  have hlive : w.isLive = true := by simp [PoolWorker.isLive, hstage]
  refine ⟨(h.accounted.release hw hlive rfl).congr rfl rfl rfl, ?_, ?_, ?_, ?_⟩
  · have hcount := countP_holdsUnit_setStage hw .done
    have hunits := h.units
    unfold held at hunits ⊢
    rw [hphase] at hunits
    change p.sem + ((p.setStage i .done).workers.countP _ + 1) = maxWorkers
    have hholds : w.holdsUnit = true := by simp [PoolWorker.holdsUnit, hstage]
    rw [hholds] at hcount
    exact (congrArg (p.sem + ·) hcount).trans hunits
  · intro j hj
    rcases hj with hj | hj <;> cases hj
  · intro hwait
    cases hwait
  · intro n timedOut hended
    cases hended

theorem Balanced.post {slot : Option Nat} (hw : p.workers[i]? = some ⟨slot, .cleared⟩) :
    ({ p.setStage i .done with sem := p.sem + 1 } : WorkerPool).Balanced maxWorkers := by
  refine ⟨(h.accounted.setStage hw .done rfl).congr rfl rfl rfl, ?_, ?_, h.waiting, h.ended⟩
  · have hcount := countP_holdsUnit_setStage hw .done
    have hunits := h.units
    unfold held at hunits ⊢
    change p.sem + 1 + ((p.setStage i .done).workers.countP _ + p.phase.holdsUnit.toNat) = maxWorkers
    simp only [PoolWorker.holdsUnit] at hcount hunits ⊢
    simp at hcount
    omega
  · intro j hj
    obtain ⟨v, hv, hstarting⟩ := h.starting j hj
    exact ⟨v, getElem_setStage_starting hw (by simp) hv hstarting .done, hstarting⟩

/-- Every event keeps the balance. -/
theorem Balanced.next {e : PoolEvent} (hq : p.next e = some q) : q.Balanced maxWorkers := by
  cases e with simp only [WorkerPool.next] at hq
  | tryWait =>
    split_ifs at hq with hphase hsem
    · cases hq
      refine h.movePhase ?_ (.inr (.inl rfl))
      rw [hphase]
      simp [AcceptPhase.holdsUnit]
      omega
    · cases hq
      exact h
  | mallocFails =>
    split_ifs at hq with hphase
    cases hq
    refine h.movePhase ?_ (.inl rfl)
    rw [hphase]
    rfl
  | register fd =>
    split_ifs at hq with hphase
    cases hq
    exact h.register hphase fd
  | created =>
    split at hq
    · rename_i i hphase
      cases hq
      exact h.created hphase
    · cases hq
  | createFails =>
    split at hq
    · rename_i i hphase
      cases hq
      refine h.movePhase ?_ (.inr (.inr ⟨i, hphase, rfl⟩))
      rw [hphase]
      rfl
    · cases hq
  | undo =>
    split at hq
    · rename_i i hphase
      split at hq
      · rename_i w hw
        cases hq
        exact h.undo hphase hw
      · cases hq
    · cases hq
  | undoPost =>
    split_ifs at hq with hphase
    cases hq
    refine h.movePhase ?_ (.inl rfl)
    rw [hphase]
    rfl
  | exit i =>
    split at hq
    · rename_i slot hw
      cases hq
      exact h.exit hw
    · cases hq
  | post i =>
    split at hq
    · rename_i slot hw
      cases hq
      exact h.post hw
    · cases hq
  | shutdown =>
    split_ifs at hq with hphase
    cases hq
    exact h.drainTest (by rw [hphase]; rfl) false
  | wake =>
    split at hq
    · rename_i woken hphase
      cases hq
      exact h.drainTest (by rw [hphase]; rfl) false
    · cases hq
  | timeout =>
    split at hq
    · rename_i woken hphase
      cases hq
      exact h.drainTest (by rw [hphase]; rfl) true
    · cases hq

end

theorem balanced_of_run (maxWorkers : Nat) (events : List PoolEvent) :
    (Machine.final step (init maxWorkers) events).Balanced maxWorkers := by
  refine final_invariant (balanced_init maxWorkers) (fun p e hp => ?_) events
  change ((p.next e).getD p).Balanced maxWorkers
  cases hq : p.next e with
  | none => exact hp
  | some q => exact hp.next hq

/-- There is a free slot for the connection that has taken a unit. -/
theorem Balanced.exists_free (h : p.Balanced maxWorkers) (hphase : p.phase = .reserved) :
    ∃ s : Nat, p.fds[s]? = some none := by
  have hregistered : p.fds.countP Option.isSome ≤ p.workers.countP PoolWorker.holdsUnit := by
    rw [h.accounted.registered_count]
    refine countP_mono_left fun w _ hw => ?_
    cases hstage : w.stage <;> simp_all [PoolWorker.isLive, PoolWorker.holdsUnit]
  have hunits := h.units
  have hlen := h.accounted.length_fds
  unfold held at hunits
  rw [hphase] at hunits
  have hlt : p.fds.countP Option.isSome < p.fds.length := by
    simp only [AcceptPhase.holdsUnit, Bool.toNat_true] at hunits
    omega
  obtain ⟨fd, hfd, hnone⟩ : ∃ fd ∈ p.fds, ¬ fd.isSome = true := by
    by_contra hall
    push Not at hall
    exact Nat.ne_of_lt hlt (countP_eq_length.mpr hall)
  obtain ⟨s, hs⟩ := getElem?_of_mem hfd
  exact ⟨s, by rw [hs, Option.not_isSome_iff_eq_none.mp hnone]⟩

end

end WorkerPool

/-- **The pool in every interleaving**: the units of the semaphore are all accounted for, the count
is that of the workers that are registered and have not run their exit section, each slot in use
belongs to one of these, a connection with a unit finds a free slot, and the drain waits while a
worker is live and no longer, unless its time is over. -/
theorem workerPool_balanced (maxWorkers : Nat) (events : List PoolEvent) :
    let p := final WorkerPool.step (.init maxWorkers) events
    p.sem + p.held = maxWorkers ∧ p.live = p.workers.countP PoolWorker.isLive ∧
    (∀ s, p.Registered s → ∃! i, p.Owns i s) ∧
    (p.phase = .reserved → ∃ s : Nat, p.fds[s]? = some none) ∧
    (p.phase = .draining false → 0 < p.live) ∧
    (∀ woken, p.phase = .draining woken → p.live = 0 →
      (p.step .wake).1.phase = .drained 0 false) ∧
    ∀ n timedOut, p.phase = .drained n timedOut → (n = 0 ∧ p.live = 0) ∨ timedOut = true := by
  intro p
  have h : p.Balanced maxWorkers := WorkerPool.balanced_of_run maxWorkers events
  refine ⟨h.units, h.accounted.live_eq, ?_, h.exists_free, h.waiting, ?_, ?_⟩
  · intro s hs
    obtain ⟨i, hi⟩ := h.accounted.owned s hs
    exact ⟨i, hi, fun j hj => h.accounted.unique j i s hj hi⟩
  · intro woken hphase hlive
    simp [WorkerPool.step, WorkerPool.next, hphase, WorkerPool.drainTest, hlive]
  · intro n timedOut hphase
    obtain ⟨hzero, hpos⟩ := h.ended n timedOut hphase
    rcases Nat.eq_zero_or_pos n with hn | hn
    · exact .inl ⟨hn, hzero hn⟩
    · exact .inr (hpos hn)

/-- The drain gives up on a worker that is live. -/
theorem drain_ends_with_live_worker :
    let p := final WorkerPool.step (.init 32)
      [.tryWait, .register (some 5), .created, .shutdown, .timeout]
    p.phase = .drained 1 true ∧ p.live = 1 ∧ p.Owns 0 0 :=
  ⟨by decide, by decide, ⟨⟨some 0, .running⟩, by decide, by decide, by decide⟩⟩

end Virp
