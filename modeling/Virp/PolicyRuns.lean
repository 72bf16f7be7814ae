import Mathlib.Data.List.Nodup
import Virp.Library.Machine
import Virp.Policy

/-! # Runs of the policy journal

The journal lives longer than the process that writes it: reservations, finishes and
restarts of the dispatcher follow one another in any order, the mutex of the policy and
`BEGIN IMMEDIATE` making each of them one step.  What the limits of the policy promise
is a property of such runs, whatever the clocks show and whichever statement of SQLite
fails.
-/
namespace Virp

open Machine List Journal

variable {p : Policy} {j j0 : Journal} {a : PolicyAction}

/-- The calls on a loaded policy.  `restart` is `virp_policy_load` of the same policy by
the next process, with the clocks it started at. -/
inductive PolicyOp where
  | reserve (env : PolicyEnv) (a : PolicyAction)
  | finish (fails : Bool) (ticket : Nat) (known : Bool)
  | restart (wall mono : Int)

/-- What a call returns: a ticket, the code of a finish, the reason for refusing. -/
inductive PolicyAnswer where
  | ticket (id : Nat)
  | refused (why : Bytes)
  | finished
  | notFinished
  | loaded
deriving DecidableEq

/-- The policy with the start clocks of the process that loaded it, and the journal. -/
abbrev PolicyState := Policy × Journal

def policyStep (s : PolicyState) : PolicyOp → PolicyState × PolicyAnswer
  | .reserve env a =>
    match virpPolicyReserve s.1 env s.2 a with
    | .ok (j, id) => ((s.1, j), .ticket id)
    | .error why => (s, .refused why)
  | .finish fails ticket known =>
    match virpPolicyFinish fails s.2 ticket known with
    | some j => ((s.1, j), .finished)
    | none => (s, .notFinished)
  | .restart wall mono => (({ s.1 with startWall := wall, startMono := mono }, s.2.reload), .loaded)

/-- A reservation that got its ticket. -/
def isGrant : PolicyOp × PolicyAnswer → Bool
  | (.reserve _ _, .ticket _) => true
  | _ => false

/-- A disruptive one. -/
def isDisruptiveGrant : PolicyOp × PolicyAnswer → Bool
  | (.reserve _ a, .ticket _) => a.effect = .disruptive
  | _ => false

/-! ## What a step can do -/

/-- The ways a step changes the journal. -/
inductive JournalStep (s : PolicyState) : PolicyOp → PolicyState → PolicyAnswer → Prop
  | granted (env : PolicyEnv) (a : PolicyAction) {j : Journal} {id : Nat}
      (h : Reserved s.1 env s.2 a j id) : JournalStep s (.reserve env a) (s.1, j) (.ticket id)
  | refused (env : PolicyEnv) (a : PolicyAction) (why : Bytes) :
      JournalStep s (.reserve env a) s (.refused why)
  | finished (fails : Bool) (ticket : Nat) (known : Bool) {j : Journal}
      (h : virpPolicyFinish fails s.2 ticket known = some j) :
      JournalStep s (.finish fails ticket known) (s.1, j) .finished
  | notFinished (fails : Bool) (ticket : Nat) (known : Bool) :
      JournalStep s (.finish fails ticket known) s .notFinished
  | restarted (wall mono : Int) :
      JournalStep s (.restart wall mono)
        ({ s.1 with startWall := wall, startMono := mono }, s.2.reload) .loaded

theorem journalStep (s : PolicyState) (op : PolicyOp) :
    JournalStep s op (policyStep s op).1 (policyStep s op).2 := by
  cases op with
  | reserve env a =>
    simp only [policyStep]
    cases h : virpPolicyReserve s.1 env s.2 a with
    | ok r => exact .granted env a (virpPolicyReserve_reserved h)
    | error why => exact .refused env a why
  | finish fails ticket known =>
    simp only [policyStep]
    cases h : virpPolicyFinish fails s.2 ticket known with
    | some j => exact .finished fails ticket known h
    | none => exact .notFinished fails ticket known
  | restart wall mono => exact .restarted wall mono

variable (pick : Attempt → Bool) (state : AttemptState)

/-- An attempt is closed by changing its state, if it was pending. -/
def Attempt.close (x : Attempt) : Attempt :=
  if pick x = true ∧ x.state = .pending then { x with state := state } else x

theorem Attempt.close_id (x : Attempt) : (x.close pick state).id = x.id := by
  unfold Attempt.close
  split <;> rfl

variable {x : Attempt} {s : PolicyState} {t : List (PolicyOp × PolicyAnswer)}

theorem Attempt.close_of_not_pending (h : x.state ≠ .pending) : x.close pick state = x :=
  if_neg fun hp => h hp.2

def Journal.close (pick : Attempt → Bool) (state : AttemptState) (j : Journal) : Journal :=
  { j with attempts := j.attempts.map (Attempt.close pick state) }

variable {j' : Journal} {env : PolicyEnv}

/-- A finish and a restart close pending attempts and change nothing else. -/
theorem virpPolicyFinish_eq {fails : Bool} {ticket : Nat} {known : Bool}
    (h : virpPolicyFinish fails j ticket known = some j') :
    j' = j.close (fun x => x.id == ticket) (if known then .done else .unknown) := by
  unfold virpPolicyFinish at h
  split at h
  · cases h
  rw [← Option.some.inj h, close]
  congr 1
  refine map_congr_left fun x _ => ?_
  simp [Attempt.close]

theorem Journal.reload_eq (j : Journal) : j.reload = j.close (fun _ => true) .unknown := by
  unfold reload close
  congr 1
  refine map_congr_left fun x _ => ?_
  simp [Attempt.close]

/-- Closing attempts leaves no more of them pending. -/
theorem Journal.pending_close_le (j : Journal) : (j.close pick state).pending ≤ j.pending := by
  simp only [pending, close]
  induction j.attempts with
  | nil => exact le_rfl
  | cons x rest ih =>
    by_cases hp : x.state = .pending
    · simp only [map_cons, filter_cons, hp, decide_true, if_true, length_cons]
      split
      · simpa using ih
      · omega
    · simpa [Attempt.close_of_not_pending pick state hp, hp] using ih

/-- The counters are within the limits of the policy, and the attempts have ids the
table has given out. -/
structure WithinLimits (p : Policy) (j : Journal) : Prop where
  calls_nonneg : 0 ≤ j.calls
  calls_le : j.calls ≤ p.maxCalls
  disruptive_nonneg : 0 ≤ j.disruptive
  disruptive_le : j.disruptive ≤ p.maxDisruptive
  inflight_le : (j.pending : Int) ≤ p.maxInflight

/-- The limits of the policy loaded last are those of `p`, the journal is within them, and
its counters have moved by what was granted. -/
structure Accounted (p : Policy) (j0 : Journal) (s : PolicyState)
    (t : List (PolicyOp × PolicyAnswer)) : Prop where
  limits : s.1.maxCalls = p.maxCalls ∧ s.1.maxDisruptive = p.maxDisruptive ∧
    s.1.maxInflight = p.maxInflight
  within : WithinLimits p s.2
  calls_eq : s.2.calls = j0.calls + t.countP isGrant
  disruptive_eq : s.2.disruptive = j0.disruptive + t.countP isDisruptiveGrant

/-- Closing attempts keeps the accounts. -/
theorem Accounted.close (h : Accounted p j0 s t) {q : Policy}
    (hq : q.maxCalls = s.1.maxCalls ∧ q.maxDisruptive = s.1.maxDisruptive ∧
      q.maxInflight = s.1.maxInflight) (pick : Attempt → Bool) (state : AttemptState)
    {e : PolicyOp × PolicyAnswer} (he : isGrant e = false) (hd : isDisruptiveGrant e = false) :
    Accounted p j0 (q, s.2.close pick state) (t ++ [e]) where
  limits := by
    obtain ⟨h1, h2, h3⟩ := h.limits
    exact ⟨hq.1.trans h1, hq.2.1.trans h2, hq.2.2.trans h3⟩
  within := { h.within with
    inflight_le := Int.le_trans (Int.ofNat_le.mpr (Journal.pending_close_le pick state s.2))
      h.within.inflight_le }
  calls_eq := by simpa [he, Journal.close] using h.calls_eq
  disruptive_eq := by simpa [hd, Journal.close] using h.disruptive_eq

/-- A step that changes nothing keeps them. -/
theorem Accounted.keep (h : Accounted p j0 s t) {e : PolicyOp × PolicyAnswer}
    (he : isGrant e = false) (hd : isDisruptiveGrant e = false) : Accounted p j0 s (t ++ [e]) where
  limits := h.limits
  within := h.within
  calls_eq := by simpa [he] using h.calls_eq
  disruptive_eq := by simpa [hd] using h.disruptive_eq

theorem Journal.pending_grant (p : Policy) (a : PolicyAction) (now : Int) (j : Journal) :
    (j.grant p a now).pending = j.pending + 1 := by
  simp [pending, grant, newAttempt]

/-- A reservation is granted only below each limit. -/
theorem Accounted.grant (h : Accounted p j0 s t) {id : Nat} (hr : Reserved s.1 env s.2 a j id) :
    Accounted p j0 (s.1, j) (t ++ [(.reserve env a, .ticket id)]) := by
  obtain ⟨hc, hd, hi⟩ := h.limits
  have hcalls := hr.calls_lt
  have hinflight := hr.inflight_lt
  have hpending := Journal.pending_grant s.1 a env.now s.2
  rw [hr.journal_eq]
  refine ⟨h.limits, ⟨?_, ?_, ?_, ?_, ?_⟩, ?_, ?_⟩
  · have := h.within.calls_nonneg
    simp only [Journal.grant]
    omega
  · simp only [Journal.grant]
    omega
  · have := h.within.disruptive_nonneg
    simp only [Journal.grant]
    split <;> omega
  · have hle := h.within.disruptive_le
    simp only [Journal.grant]
    split
    · have := hr.disruptive_lt ‹_›
      omega
    · omega
  · rw [hpending]
    push_cast
    omega
  · have := h.calls_eq
    simp only [Journal.grant, countP_append, countP_singleton, isGrant, if_true]
    push_cast
    omega
  · have := h.disruptive_eq
    simp only [Journal.grant, countP_append, countP_singleton, isDisruptiveGrant,
      decide_eq_true_eq]
    split <;> push_cast <;> omega

theorem accounted_step (s : PolicyState) (t : List (PolicyOp × PolicyAnswer)) (op : PolicyOp)
    (h : Accounted p j0 s t) :
    Accounted p j0 (policyStep s op).1 (t ++ [(op, (policyStep s op).2)]) := by
  have hstep := journalStep s op
  generalize (policyStep s op).1 = s', (policyStep s op).2 = answer at hstep ⊢
  cases hstep with
  | granted env a hr => exact h.grant hr
  | refused env a why => exact h.keep rfl rfl
  | finished fails ticket known hf =>
    rw [virpPolicyFinish_eq hf]
    exact h.close (e := (.finish fails ticket known, .finished)) ⟨rfl, rfl, rfl⟩ _ _ rfl rfl
  | notFinished fails ticket known => exact h.keep rfl rfl
  | restarted wall mono =>
    rw [reload_eq]
    exact h.close (q := { s.1 with startWall := wall, startMono := mono })
      (e := (.restart wall mono, .loaded)) ⟨rfl, rfl, rfl⟩ _ _ rfl rfl

/-- What holds of the journal, with a grant and with a close, holds after every call. -/
theorem journal_rule {P : Journal → Prop} (s : PolicyState) (op : PolicyOp) (h : P s.2)
    (hgrant : ∀ a now, P (s.2.grant s.1 a now)) (hclose : ∀ pick state, P (s.2.close pick state)) :
    P (policyStep s op).1.2 := by
  have hstep := journalStep s op
  generalize (policyStep s op).1 = s', (policyStep s op).2 = answer at hstep ⊢
  cases hstep with
  | granted env a hr =>
    rw [hr.journal_eq]
    exact hgrant a env.now
  | refused env a why => exact h
  | finished fails ticket known hf =>
    rw [virpPolicyFinish_eq hf]
    exact hclose _ _
  | notFinished fails ticket known => exact h
  | restarted wall mono =>
    rw [reload_eq]
    exact hclose _ _

/-- An attempt that is no longer pending stays as it is, whatever is called. -/
theorem settled_step (hx : x.state ≠ .pending) (s : PolicyState) (op : PolicyOp)
    (h : x ∈ s.2.attempts) : x ∈ (policyStep s op).1.2.attempts := by
  refine journal_rule (P := fun j => x ∈ j.attempts) s op h ?_ ?_
  · exact fun a now => mem_append_left _ h
  · exact fun pick state =>
      mem_map.mpr ⟨x, h, Attempt.close_of_not_pending pick state hx⟩

/-- The primary key: ids are distinct and were given out by the table. -/
def Journal.Keyed (j : Journal) : Prop :=
  (j.attempts.map (·.id)).Nodup ∧ ∀ x ∈ j.attempts, x.id < j.nextId

theorem Journal.Keyed.close (h : j.Keyed) (pick : Attempt → Bool) (state : AttemptState) :
    (j.close pick state).Keyed := by
  constructor
  · have hids : (j.attempts.map (Attempt.close pick state)).map (·.id) = j.attempts.map (·.id) := by
      rw [map_map]
      exact map_congr_left fun x _ => Attempt.close_id pick state x
    exact hids ▸ h.1
  · intro y hy
    obtain ⟨x, hx, rfl⟩ := mem_map.mp hy
    rw [Attempt.close_id]
    exact h.2 x hx

theorem Journal.Keyed.grant (h : j.Keyed) (p : Policy) (a : PolicyAction) (now : Int) :
    (j.grant p a now).Keyed := by
  constructor
  · have hnew : j.nextId ∉ j.attempts.map (·.id) := by
      intro hmem
      obtain ⟨x, hx, hid⟩ := mem_map.mp hmem
      exact absurd (h.2 x hx) (by omega)
    simpa [Journal.grant, newAttempt, nodup_append] using
      ⟨h.1, fun x hx hid => hnew (mem_map.mpr ⟨x, hx, hid⟩)⟩
  · intro x hx
    rcases mem_append.mp hx with hx | hx
    · exact Nat.lt_succ_of_lt (h.2 x hx)
    · rw [mem_singleton.mp hx]
      exact Nat.lt_succ_self _

theorem keyed_step (s : PolicyState) (op : PolicyOp) (h : s.2.Keyed) :
    (policyStep s op).1.2.Keyed := journal_rule s op h (h.grant s.1) h.close

/-- Two attempts of one journal with one id are one attempt. -/
theorem Journal.Keyed.unique (h : j.Keyed) {y : Attempt} (hx : x ∈ j.attempts) (hy : y ∈ j.attempts)
    (hid : x.id = y.id) : x = y := inj_on_of_nodup_map h.1 hx hy hid

/-! ## What a mutating reservation finds -/

/-- An action of the catalogue has no effect exactly if its operation is a read. -/
def PolicyAction.Faithful (a : PolicyAction) : Prop :=
  a.effect = .read ↔ a.operation.bytes ∈ readOperations

instance (a : PolicyAction) : Decidable a.Faithful :=
  inferInstanceAs (Decidable (_ ↔ _))

theorem policyOp_faithful (command resource : Bytes) {operation : Bytes} {effect : Effect}
    (vlan : Nat)
    (h : effect = .read ↔ (Field.copy 48 operation).bytes ∈ readOperations) :
    (policyOp command resource operation effect vlan).Faithful := h

theorem classifyVm_faithful {s : Bytes} (h : classifyVm s = some a) : a.Faithful := by
  unfold classifyVm at h
  split at h
  · cases h
  split at h
  · cases h
  split at h
  · cases h
  dsimp only at h
  split at h
  · cases h
  iterate 4
    split at h
    · cases h
      exact policyOp_faithful _ _ _ (by decide +kernel)
  cases h

theorem classifyPort_faithful {s : Bytes} (h : classifyPort s = some a) : a.Faithful := by
  unfold classifyPort at h
  dsimp only at h
  split at h
  · cases h
  iterate 3
    split at h
    · cases h
      exact policyOp_faithful _ _ _ (by decide +kernel)
  cases h

theorem virpPolicyClassify_faithful {v : Vendor} {command : Bytes}
    (h : virpPolicyClassify v command = some a) : a.Faithful := by
  unfold virpPolicyClassify at h
  split at h
  · cases h
  iterate 2
    split at h
    · cases h
      exact policyOp_faithful _ _ _ (by decide +kernel)
  split at h
  · exact classifyVm_faithful h
  split at h
  · exact classifyPort_faithful h
  · cases h

/-- A mutating reservation found no uncertain change, and nothing running on what it
touches. -/
theorem Reserved.unobstructed {id : Nat} (h : Reserved p env j a j' id) (ha : a.effect ≠ .read)
    (hx : x ∈ j.attempts) : (x.state = .unknown → x.operation ∈ readOperations) ∧
      (x.state = .pending → x.overlaps a = false) := by
  have hclear := h.clear ha x hx
  simp only [Attempt.blocks, Bool.or_eq_false_iff, Bool.and_eq_false_iff, decide_eq_false_iff_not,
    Bool.not_eq_eq_eq_not, Bool.not_false, decide_eq_true_eq] at hclear
  exact ⟨fun hs => hclear.1.resolve_left fun hn => hn hs,
    fun hs => hclear.2.resolve_left fun hn => hn hs⟩

/-- **The policy journal over any run.**  The grants stay within the limits of the
policy; a change is granted only if no change is uncertain and nothing overlapping is
running; an attempt that has left the pending state is never changed again; a call that
returns no ticket leaves the journal as it was. -/
theorem policy_limits_hold (p : Policy) (j0 : Journal) (hstart : WithinLimits p j0)
    (hkeys : j0.Keyed) (ops : List PolicyOp) :
    let s : PolicyState := final policyStep (p, j0) ops
    let t := trace policyStep (p, j0) ops
    (t.countP isGrant : Int) ≤ p.maxCalls ∧
    (t.countP isDisruptiveGrant : Int) ≤ p.maxDisruptive ∧
    (s.2.pending : Int) ≤ p.maxInflight ∧
    (∀ env a id, (policyStep s (.reserve env a)).2 = .ticket id → a.effect ≠ .read →
      ∀ x ∈ s.2.attempts, (x.state = .unknown → x.operation ∈ readOperations) ∧
        (x.state = .pending → x.overlaps a = false)) ∧
    (∀ v command a, virpPolicyClassify v command = some a →
      (a.effect = .read ↔ a.operation.bytes ∈ readOperations)) ∧
    (∀ x ∈ s.2.attempts, x.state ≠ .pending → ∀ more y, y ∈ (final policyStep s more).2.attempts →
      y.id = x.id → y = x) ∧
    (∀ env a, (∀ id, (policyStep s (.reserve env a)).2 ≠ .ticket id) →
      (policyStep s (.reserve env a)).1.2 = s.2) ∧
    (∀ fails ticket known, (policyStep s (.finish fails ticket known)).2 ≠ .finished →
      (policyStep s (.finish fails ticket known)).1.2 = s.2) := by
  intro s t
  have hacc : Accounted p j0 s t := 
    invariant ⟨⟨rfl, rfl, rfl⟩, hstart, by simp, by simp⟩ accounted_step ops
  have hkeyed : s.2.Keyed := final_invariant (I := fun s : PolicyState => s.2.Keyed) hkeys keyed_step ops
  refine ⟨?_, ?_, hacc.within.inflight_le, ?_, fun _ _ _ => virpPolicyClassify_faithful, ?_, ?_, ?_⟩
  · have := hacc.calls_eq
    have := hacc.within.calls_le
    have := hstart.calls_nonneg
    omega
  · have := hacc.disruptive_eq
    have := hacc.within.disruptive_le
    have := hstart.disruptive_nonneg
    omega
  · intro env a id hticket ha x hx
    simp only [policyStep] at hticket
    cases hr : virpPolicyReserve s.1 env s.2 a with
    | ok r => exact (virpPolicyReserve_reserved hr).unobstructed ha hx
    | error why =>
      rw [hr] at hticket
      cases hticket
  · intro x hx hsettled more y hy hid
    have hx' : x ∈ (final policyStep s more).2.attempts :=
      final_invariant (I := fun s : PolicyState => x ∈ s.2.attempts) hx (settled_step hsettled) more
    exact (final_invariant (I := fun s : PolicyState => s.2.Keyed) hkeyed keyed_step more).unique hy hx' hid
  · intro env a hnone
    simp only [policyStep] at hnone ⊢
    cases hr : virpPolicyReserve s.1 env s.2 a with
    | ok r =>
      rw [hr] at hnone
      exact absurd rfl (hnone r.2)
    | error why => rfl
  · intro fails ticket known hnone
    simp only [policyStep] at hnone ⊢
    cases hf : virpPolicyFinish fails s.2 ticket known with
    | some j =>
      rw [hf] at hnone
      exact absurd rfl hnone
    | none => rfl

/-- A policy that lets one caller make two calls, one of them disruptive, one at a time. -/
def samplePolicy : Policy where
  maxCalls := 2
  maxDisruptive := 1
  maxInflight := 1
  principals := [⟨1000, .autonomous, 5000, []⟩]
  protectedResources := []
  digest := []
  startWall := 1000
  startMono := 0

/-- A journal as the operator creates it. -/
def emptyJournal : Journal := ⟨false, 0, 0, 0, [], 1⟩

def calmEnv (now : Int) : PolicyEnv where
  now := now
  mono := now - 1000
  clockFails := false
  beginFails := false
  queryFails := false
  overlapPrepareFails := false
  overlapStepFails := false
  insertFails := false
  updateFails := false
  commitFails := false

def sampleReboot : PolicyAction :=
  { policyOp (text "reboot") (text "host") (text "host.reboot") .disruptive 0 with uid := 1000 }

/-- A reboot is granted and finished; a second one is over the limit; a failed insert and
a clock set back are refused. -/
def samplePolicyRun : List PolicyOp :=
  [.reserve { calmEnv 1000 with insertFails := true } sampleReboot,
   .reserve (calmEnv 1001) sampleReboot, .reserve (calmEnv 1002) sampleReboot,
   .finish false 1 true, .reserve (calmEnv 900) sampleReboot, .reserve (calmEnv 1003) sampleReboot]

theorem policy_limits_hold_sample :
    (trace policyStep (samplePolicy, emptyJournal) samplePolicyRun).countP isGrant = 1 ∧
    ((trace policyStep (samplePolicy, emptyJournal) samplePolicyRun).countP isGrant : Int) ≤
      samplePolicy.maxCalls :=
  ⟨by decide +kernel, (policy_limits_hold samplePolicy emptyJournal
    ⟨by decide, by decide, by decide, by decide, by decide⟩ ⟨nodup_nil, by simp [emptyJournal]⟩
    samplePolicyRun).1⟩

end Virp
