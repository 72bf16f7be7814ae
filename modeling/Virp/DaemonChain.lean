import Virp.ApprovalLifetime
import Virp.ChainTamper

/-! # The chain of a running daemon

However the threads of the daemon interleave, and wherever it crashes, its chain is one that a run
of single appends leaves behind (`Reached.refines`).  What holds of those runs holds of the daemon.
-/
namespace Virp

open Threads List

/-- What an operation adds to the log of the chain: an append that landed. -/
def DaemonState.logged (L : Libs) (env : DaemonEnv) (s : DaemonState) : Op → Option Logged
  | .append call _ => s.cfg.chain.bind fun h => chainLogged L.C h env.append s.chain call
  | _ => none

/-- The appends that landed, whichever thread made them. -/
def chainLog (L : Libs) (events : List (Event Daemon DaemonState DaemonEnv)) : List Logged :=
  events.filterMap fun e => e.before.logged L e.env e.op

/-- The chain, if there is one, is kept under the key `K`. -/
def OnodeConfig.UsesKey (cfg : OnodeConfig) (K : Bytes) : Prop := ∀ h ∈ cfg.chain, h.chainKey = K

/-- Where a run of a daemon with one chain key comes to from an empty chain, whatever its threads
are, and the appends made on the way. -/
inductive Reached (L : Libs) (K : Bytes) : DaemonState → List Logged → Prop
  | run {ρ : Type} {s : DaemonState} {moves : List (Move Daemon DaemonEnv ρ)}
      (hempty : s.chain = .empty) (hkey : s.cfg.UsesKey K)
      (hrestart : ∀ env, .crash env ∈ moves → env.restart.UsesKey K) :
      Reached L K (Threads.run (world L) s moves).state
        (chainLog L (Threads.run (world L) s moves).log)

variable {L : Libs} {K : Bytes} {s s' : DaemonState} {log : List Logged}

/-- An operation of the daemon is one of the chain, or leaves the chain alone. -/
theorem act_chain {env : DaemonEnv} {i : Nat} {o : Op} {r : Op.Res o}
    (h : s.act L env i o = some (s', r)) : s'.cfg = s.cfg ∧
      (s'.chain = s.chain ∧ s.logged L env o = none ∨ ∃ h' ∈ s.cfg.chain, ∃ call, ∀ log,
        runStep L.C ⟨s.chain, log⟩ (.append h' env.append call) =
          ⟨s'.chain, log ++ (s.logged L env o).toList⟩) := by
  cases o with
  | append call object =>
    simp only [DaemonState.act, DaemonState.appendChain] at h
    cases hc : s.cfg.chain with
    | none =>
      rw [hc] at h
      cases h
      exact ⟨rfl, .inl ⟨rfl, by simp [DaemonState.logged, hc]⟩⟩
    | some h' =>
      rw [hc] at h
      cases h
      refine ⟨rfl, .inr ⟨h', rfl, call, fun log => ?_⟩⟩
      simp only [runStep, DaemonState.logged, hc, Option.bind_some]
      rfl
  | writeFile | buildSessionObservation | lockConsume | lockSubmit | reserve | finish =>
    simp only [DaemonState.act, DaemonState.buildSession, Option.some.injEq] at h
    split at h <;> cases h <;> exact ⟨rfl, .inl ⟨rfl, rfl⟩⟩
  | _ =>
    cases h
    exact ⟨rfl, .inl ⟨rfl, rfl⟩⟩

/-- **The daemon refines the chain**: its store and log are those of a run of single appends, under
the same key. -/
theorem Reached.refines (h : Reached L K s log) :
    ∃ ops, (∀ op ∈ ops, op.UsesKey K) ∧ Virp.run L.C ops = ⟨s.chain, log⟩ := by
  obtain ⟨hempty, hkey, hrestart⟩ := h
  refine (run_invariant (W := world L) (J := fun s events => s.cfg.UsesKey K ∧
    ∃ ops, (∀ op ∈ ops, op.UsesKey K) ∧ Virp.run L.C ops = ⟨s.chain, chainLog L events⟩) ?_ ?_ ?_).2
  · exact ⟨hkey, [], nofun, by rw [hempty]; rfl⟩
  · rintro i env s o s' r events ⟨hcfg, ops, hops, hrun⟩ hact
    have hlog : chainLog L (events ++ [⟨i, env, s, o, r⟩]) =
        chainLog L events ++ (s.logged L env o).toList := by
      simp only [chainLog, filterMap_append]
      cases hl : s.logged L env o <;> simp [hl]
    obtain ⟨hsame, ⟨hchain, hnone⟩ | ⟨h', hh', call, hstep⟩⟩ := act_chain hact
    · refine ⟨hsame ▸ hcfg, ops, hops, ?_⟩
      rw [hlog, hnone, hchain, hrun]
      simp
    · refine ⟨hsame ▸ hcfg, ops ++ [.append h' env.append call], ?_, ?_⟩
      · simpa [or_imp, forall_and, ChainOp.UsesKey] using ⟨hops, hcfg h' hh'⟩
      · rw [hlog, ← hstep, ← hrun, Virp.run, foldl_append]
        rfl
  · -- a crash is the chain reopened
    rintro env s events hcrash ⟨hcfg, ops, hops, hrun⟩
    refine ⟨hrestart env hcrash, ops ++ [.reopen], ?_, ?_⟩
    · simpa [or_imp, forall_and, ChainOp.UsesKey] using hops
    · rw [Virp.run, foldl_append, ← Virp.run, hrun]
      rfl

theorem Reached.honest (h : Reached L K s log) : Honest L.C K s.chain.committed log := by
  obtain ⟨ops, hops, hrun⟩ := h.refines
  have H := honest_run (C := L.C) hops
  rwa [hrun] at H

/-- **No append is lost, repeated or out of place**, whatever the threads do and wherever the daemon
crashes: the rows are the appends that landed, in their order, and one of them that did not return
OK is number 0; each session is linked; and its head names the last of them, or is missing where
that one did not return OK. -/
theorem daemon_chain_is_log (h : Reached L K s log) :
    s.chain.committed.entries.rows = log.map Logged.row ∧
    (∀ i ∈ log, i.acked = false → i.entry.sequence = 0) ∧
    (∀ c, LinkedGroup L.C c (group log c)) ∧
    ∀ t, HeadFor L.C K t (s.chain.committed.headGet t) (ofSession log t).getLast? :=
  ⟨h.honest.rows_eq, h.honest.unacked, h.honest.linked, h.honest.heads⟩

/-- **Tamper evidence for a running daemon.**  Whatever rows an editor without the chain key leaves
behind after a run, a session that verifies shows exactly what the threads appended to it. -/
theorem daemon_session_is_log (h : Reached L K s log) {parse : Bytes → Option Json} {db' : Db}
    (hshort : ∀ i ∈ log, i.session.length ≤ 236) (hlen : log.length < 2 ^ 63)
    (hsha : Set.InjOn L.C.sha256 (genesisTexts log))
    (hm : OnlyMacs (macValues s.chain.committed) db') {v : Handle} (hk : v.haveChainKey = true)
    (hK : v.chainKey = K) {env : ReadEnv} {t : Bytes}
    (hforge : NoForgery L.C K (checkedTexts env.stack db' t) (macTexts s.chain.committed))
    (hvalid : (chainVerifySessionLocked L.C parse v env db' t).valid = true) :
    ∃ row, db'.headGet t = some row ∧
      (entriesRead v db' t 0 row.lastSequence).map Entry.core =
        (ofSession log t).map (fun i => i.entry.core) := by
  obtain ⟨row, hv⟩ := valid_iff.mp hvalid
  exact ⟨row, hv.head, h.honest.verified_is_log hshort hlen hsha hm hk hK hforge hv⟩

namespace Sample

/-- A daemon that keeps its chain with `handle`. -/
def daemon : DaemonState :=
  { ApprovalSample.state (fun _ => none) with
    cfg := { ApprovalSample.config with chain := some handle } }

def daemonLibs : Libs := { ApprovalSample.libs with C := crypto }

/-- A thread appends the observation, and the daemon crashes. -/
def daemonMoves : List (Move Daemon DaemonEnv (Except VirpError Entry)) :=
  [.spawn (Sys.append observation none), .step 0 { ApprovalSample.env with append := env },
    .crash { ApprovalSample.env with restart := daemon.cfg }]

theorem reached_writes : ∃ s, Reached daemonLibs handle.chainKey s (run crypto writes).log ∧
    s.chain.committed = (run crypto writes).store.committed := by
  have hkey : daemon.cfg.UsesKey handle.chainKey := by
    rintro h ⟨⟩
    rfl
  have hrestart : ∀ e, .crash e ∈ daemonMoves → e.restart.UsesKey handle.chainKey := by
    simpa [daemonMoves] using hkey
  have h := @Reached.run daemonLibs handle.chainKey _ daemon daemonMoves rfl hkey hrestart
  have hlog : chainLog daemonLibs (Threads.run (world daemonLibs) daemon daemonMoves).log =
      (run crypto writes).log := by decide +kernel
  rw [hlog] at h
  exact ⟨_, h, by decide +kernel⟩

end Sample

open Sample

theorem daemon_chain_is_log_observed : ∃ s : DaemonState,
    s.chain.committed.entries.rows = (run crypto writes).log.map Logged.row := by
  obtain ⟨s, h, -⟩ := reached_writes
  exact ⟨s, (daemon_chain_is_log h).1⟩

/-- A replayed row in another session leaves what the daemon appended readable. -/
theorem daemon_session_is_log_replayed : ∃ row, edited.headGet (text "s1") = some row ∧
    (entriesRead handle edited (text "s1") 0 row.lastSequence).map Entry.core =
      (ofSession (run crypto writes).log (text "s1")).map (fun i => i.entry.core) := by
  have hone : (run crypto writes).log.length = 1 := by decide +kernel
  obtain ⟨s, h, hs⟩ := reached_writes
  refine daemon_session_is_log h (by decide +kernel) (by rw [hone]; decide) ?_
    (by rw [hs]; exact onlyMacs_edited) rfl rfl (by rw [hs]; exact noForgery_edited) valid_edited
  obtain ⟨i, hi⟩ := length_eq_one_iff.mp hone
  rintro x ⟨j, hj, rfl⟩ y ⟨k, hk, rfl⟩ -
  rw [hi, mem_singleton] at hj hk
  rw [hj, hk]

end Virp
