import Virp.Handshake

/-! # Timeouts of a session

A timeout check compares the clock with a time noted in the session: when the HELLO was
answered, and when something was last signed.  Here the times are read off the past (`timesOf`)
and compared with the clock over the integers (`Elapsed`).

The check does the same as long as the clock is not behind the noted time, where the unsigned
difference comes round; the session has signed something, since its activation leaves no time
to compare with; and a signature was not noted before the activation, or without being made.
-/
namespace Virp

open Machine

variable {C : Crypto}

/-! ## What the past says -/

/-- When the HELLO of a session was answered, when its key was derived, and when it last signed
something. -/
structure Times where
  answered : Option UInt64
  activated : Option UInt64
  signed : Option UInt64

/-- Nothing has happened yet. -/
def Times.none : Times := ⟨.none, .none, .none⟩

/-- One more call. -/
def Times.next (t : Times) : SessionOp × SessionAnswer → Times
  | (.hello _ env, .acked _) => ⟨some env.negotiatedAt, .none, .none⟩
  | (.derive _ env, .ok) => { t with activated := some env.now }
  | (.sign now, .ok) => { t with signed := some now }
  | x => if isReset x then .none else t

/-- The times of the session after these calls. -/
def timesOf (past : List (SessionOp × SessionAnswer)) : Times := past.foldl Times.next .none

/-- The later of the activation and the last signature. -/
def Times.idleSince (t : Times) : Nat :=
  max ((t.activated.getD 0).toNat) ((t.signed.getD 0).toNat)

/-- The timeout of the session's state has passed: 30 seconds for a BIND, 5 minutes of
idleness. -/
def Elapsed (state : SessionState) (t : Times) (now : UInt64) : Prop :=
  match state with
  | .negotiated => (t.answered.getD 0).toNat + 30 * 1000000000 < now.toNat
  | .active => t.idleSince + 300 * 1000000000 < now.toNat
  | _ => False

instance : ∀ state t now, Decidable (Elapsed state t now)
  | .negotiated, t, now => inferInstanceAs
      (Decidable ((t.answered.getD 0).toNat + 30 * 1000000000 < now.toNat))
  | .active, t, now => inferInstanceAs (Decidable (t.idleSince + 300 * 1000000000 < now.toNat))
  | .disconnected, _, _ | .bound, _, _ => .isFalse id

/-- The condition on a call, in the state it is made in. -/
def Timely (s : VirpSession) : SessionOp → Prop
  | .checkTimeouts now =>
    (s.state = .negotiated → s.helloAckSentAtNs ≤ now) ∧
    (s.state = .active → s.lastActivityNs ≤ now ∧
      (s.lastActivityNs = 0 → now.toNat ≤ s.establishedAtNs.toNat + 300 * 1000000000))
  | .sign now => s.state = .active → s.establishedAtNs ≤ now
  | .signFails _ _ => s.state ≠ .active
  | _ => True

instance (s : VirpSession) : ∀ op, Decidable (Timely s op)
  | .checkTimeouts now => inferInstanceAs (Decidable
      ((s.state = .negotiated → s.helloAckSentAtNs ≤ now) ∧
        (s.state = .active → s.lastActivityNs ≤ now ∧
          (s.lastActivityNs = 0 → now.toNat ≤ s.establishedAtNs.toNat + 300 * 1000000000))))
  | .sign now => inferInstanceAs (Decidable (s.state = .active → s.establishedAtNs ≤ now))
  | .signFails _ _ => inferInstanceAs (Decidable (s.state ≠ .active))
  | .hello _ _ | .bind _ | .derive _ _ | .reset => .isTrue trivial

/-! ## The noted times are those of the past -/

/-- What the session has noted. -/
structure Noted (s : VirpSession) (t : Times) : Prop where
  answered : s.state = .negotiated → t.answered = some s.helloAckSentAtNs
  activated : s.state = .active → t.activated = some s.establishedAtNs
  signed : t.signed.getD 0 = s.lastActivityNs
  ordered : s.state = .active → s.lastActivityNs ≠ 0 → s.establishedAtNs ≤ s.lastActivityNs
  silent : s.state ≠ .active → s.lastActivityNs = 0

theorem state_sessionReset (s : VirpSession) : (sessionReset s).state = .disconnected := rfl

theorem noted_reset (s : VirpSession) : Noted (sessionReset s) .none where
  answered h := by cases h
  activated h := by cases h
  signed := rfl
  ordered h := by cases h
  silent _ := rfl

variable {s : VirpSession}

/-- A session in which nothing was signed and nothing has to be noted. -/
theorem noted_disconnected (hst : s.state = .disconnected) (hlast : s.lastActivityNs = 0) :
    Noted s .none where
  answered h := by rw [hst] at h; cases h
  activated h := by rw [hst] at h; cases h
  signed := hlast.symm
  ordered h := by rw [hst] at h; cases h
  silent _ := hlast

theorem times_transcriptAppend (s : VirpSession) (data : Bytes) :
    (transcriptAppend s data).state = s.state ∧
      (transcriptAppend s data).helloAckSentAtNs = s.helloAckSentAtNs ∧
      (transcriptAppend s data).lastActivityNs = s.lastActivityNs := by
  unfold transcriptAppend
  split <;> exact ⟨rfl, rfl, rfl⟩

/-- What a HELLO does to the noted times. -/
theorem virpHandleHello_times {s' : VirpSession} {h : SessionHello} {env : HelloEnv}
    {r : Except VirpError SessionHelloAck} (hh : virpHandleHello s h env = (s', r)) :
    (s' = s ∧ r = .error .sessionInvalid) ∨ (s'.state = .disconnected ∧ s'.lastActivityNs = 0 ∧
      ∃ err, r = .error err ∧ err ≠ .sessionInvalid) ∨
    (s'.state = .negotiated ∧ s'.lastActivityNs = 0 ∧ s'.helloAckSentAtNs = env.negotiatedAt ∧
      ∃ a, r = .ok a) := by
  unfold virpHandleHello at hh
  split at hh
  · cases hh
    exact .inl ⟨rfl, rfl⟩
  iterate 4
    split at hh
    · cases hh
      exact .inr (.inl ⟨rfl, rfl, _, rfl, by decide⟩)
  cases hh
  simp only [times_transcriptAppend]
  exact .inr (.inr ⟨rfl, rfl, rfl, _, rfl⟩)

variable {t : Times} {now : UInt64}

/-- A HELLO notes when it was answered, or leaves nothing noted. -/
theorem noted_hello (hn : Noted s t) (h : SessionHello) (env : HelloEnv) :
    Noted (sessionStep C s (.hello h env)).1
      (t.next (.hello h env, (sessionStep C s (.hello h env)).2)) := by
  simp only [sessionStep]
  cases hh : virpHandleHello s h env with
  | mk s' r =>
    rcases virpHandleHello_times hh with ⟨rfl, rfl⟩ | ⟨hst, hlast, err, rfl, hne⟩ |
      ⟨hst, hlast, hat, a, rfl⟩
    · exact hn
    · have hreset : isReset (.hello h env, .failed err) = true := by simp [isReset, hne]
      simp only [Times.next, hreset, if_true]
      exact noted_disconnected hst hlast
    · exact
        { answered := fun _ => congrArg some hat.symm
          activated := fun ha => by simp only [hst] at ha; cases ha
          signed := hlast.symm
          ordered := fun ha => by simp only [hst] at ha; cases ha
          silent := fun _ => hlast }

/-- A signature is noted at its time. -/
theorem noted_sign (hn : Noted s t) (hok : Timely s (.sign now)) :
    Noted (sessionStep C s (.sign now)).1
      (t.next (.sign now, (sessionStep C s (.sign now)).2)) := by
  simp only [sessionStep, signActivity]
  split
  · exact hn
  rename_i hst
  have hst := not_not.mp hst
  split
  · exact hn
  exact
    { answered := fun hneg => by simp only [hst] at hneg; cases hneg
      activated := fun _ => hn.activated hst
      signed := rfl
      ordered := fun _ _ => hok hst
      silent := fun hne => absurd hst hne }

/-- **Every call that meets the condition notes the times of the past.** -/
theorem noted_step (s : VirpSession) (past : List (SessionOp × SessionAnswer)) (op : SessionOp)
    (hn : Noted s (timesOf past)) (hok : Timely s op) :
    Noted (sessionStep C s op).1 (timesOf (past ++ [(op, (sessionStep C s op).2)])) := by
  rw [timesOf, List.foldl_append]
  change Noted _ ((timesOf past).next _)
  cases op with
  | hello h env => exact noted_hello hn h env
  | sign now => exact noted_sign hn hok
  | bind b =>
    rcases virpHandleSessionBind_cases (C := C) s b with ⟨err, he⟩ | ⟨hst, -, he⟩
    · simp only [sessionStep, he]
      exact hn
    obtain ⟨-, -, h3⟩ := times_transcriptAppend s (serializeSessionBind b)
    have hsilent : s.lastActivityNs = 0 := hn.silent (by rw [hst]; decide)
    simp only [sessionStep, he]
    exact
      { answered := fun h => by cases h
        activated := fun h => by cases h
        signed := hn.signed.trans h3.symm
        ordered := fun h => by cases h
        silent := fun _ => h3.trans hsilent }
  | derive key env =>
    rcases virpSessionDeriveKey_cases (C := C) s key env with ⟨err, k, he, -⟩ | ⟨hst, he⟩
    · simp only [sessionStep, he]
      exact ⟨hn.answered, hn.activated, hn.signed, hn.ordered, hn.silent⟩
    have hsilent : s.lastActivityNs = 0 := hn.silent (by rw [hst]; decide)
    simp only [sessionStep, he]
    exact
      { answered := fun h => by cases h
        activated := fun _ => rfl
        signed := hn.signed
        ordered := fun _ hne => absurd hsilent hne
        silent := fun hne => absurd rfl hne }
  | signFails now err =>
    -- the session is not active, so nothing is noted
    have heq : (sessionStep C s (.signFails now err)).1 = s := by
      simp only [sessionStep, signAttempt_fst, signActivity]
      exact congrArg Prod.fst (if_pos hok)
    rw [heq]
    exact hn
  | checkTimeouts now =>
    rcases virpSessionCheckTimeouts_cases s now with he | ⟨err, he⟩
    · simp only [sessionStep, he]
      exact hn
    · simp only [sessionStep, he]
      exact noted_reset s
  | reset => exact noted_reset s

theorem noted_run (serverId : Bytes) {ops : List SessionOp}
    (hops : Steps (sessionStep C) Timely (sessionInit serverId) ops) :
    Noted (final (sessionStep C) (sessionInit serverId) ops)
      (timesOf (trace (sessionStep C) (sessionInit serverId) ops)) :=
  invariant_of_steps (I := fun s past => Noted s (timesOf past))
    (noted_disconnected rfl rfl) noted_step hops

/-! ## The check -/

theorem checkTimeouts_resets_iff (s : VirpSession) (now : UInt64) :
    (sessionStep C s (.checkTimeouts now)).2 ≠ .ok ↔
      (s.state = .negotiated ∧ 30 * 1000000000 < now - s.helloAckSentAtNs) ∨
      (s.state = .active ∧ 0 < s.lastActivityNs ∧ 300 * 1000000000 < now - s.lastActivityNs) := by
  simp only [sessionStep, virpSessionCheckTimeouts]
  split
  · rename_i h
    exact ⟨fun _ => .inl h, fun _ hok => by cases hok⟩
  rename_i h
  split
  · rename_i h'
    exact ⟨fun _ => .inr h', fun _ hok => by cases hok⟩
  · rename_i h'
    exact ⟨fun hne => absurd rfl hne, fun hor => absurd hor (not_or.mpr ⟨h, h'⟩)⟩

/-- The difference to a time the clock is not behind. -/
theorem lt_sub_iff {a b : UInt64} (h : a ≤ b) (n : UInt64) :
    n < b - a ↔ a.toNat + n.toNat < b.toNat := by
  rw [UInt64.lt_iff_toNat_lt, UInt64.toNat_sub_of_le _ _ h]
  rw [UInt64.le_iff_toNat_le] at h
  omega

/-- **A check resets the session exactly when its timeout has passed.** -/
theorem checkTimeouts_iff (hn : Noted s t) (hok : Timely s (.checkTimeouts now)) :
    (sessionStep C s (.checkTimeouts now)).2 ≠ .ok ↔ Elapsed s.state t now := by
  rw [checkTimeouts_resets_iff]
  cases hst : s.state with
  | disconnected => simp [Elapsed]
  | bound => simp [Elapsed]
  | negotiated =>
    simp only [lt_sub_iff (hok.1 hst), Elapsed, hn.answered hst, Option.getD_some, true_and,
      reduceCtorEq, false_and, or_false]
    rfl
  | active =>
    obtain ⟨hle, hnever⟩ := hok.2 hst
    simp only [lt_sub_iff hle, Elapsed, Times.idleSince, hn.activated hst, hn.signed,
      Option.getD_some, true_and, reduceCtorEq, false_and, false_or]
    by_cases hzero : s.lastActivityNs = 0
    · -- nothing was signed, and the timeout of the activation has not passed
      have hbound := hnever hzero
      rw [hzero, show (0 : UInt64).toNat = 0 from rfl, Nat.max_zero]
      refine ⟨fun h => absurd h.1 (UInt64.lt_irrefl 0), fun h => ?_⟩
      omega
    · have hpos : 0 < s.lastActivityNs := UInt64.pos_iff_ne_zero.mpr hzero
      have hmax := UInt64.le_iff_toNat_le.mp (hn.ordered hst hzero)
      rw [Nat.max_eq_right hmax]
      simp only [hpos, true_and]
      rfl

/-- **Timeouts over any run.**  In a run whose calls meet the condition, every timeout check
that does resets the session exactly if the timeout of its state has passed, by what happened
in the run: 30 seconds since the HELLO was answered, or 5 minutes since the later of the
activation and the last signature. -/
theorem timeouts_of_run (serverId : Bytes) (ops : List SessionOp)
    (hops : Steps (sessionStep C) Timely (sessionInit serverId) ops) {s : VirpSession}
    {past : List (SessionOp × SessionAnswer)}
    (hs : final (sessionStep C) (sessionInit serverId) ops = s)
    (hpast : trace (sessionStep C) (sessionInit serverId) ops = past) (now : UInt64)
    (hok : Timely s (.checkTimeouts now)) :
    (Elapsed s.state (timesOf past) now →
      (sessionStep C s (.checkTimeouts now)).1 = sessionReset s) ∧
    (¬ Elapsed s.state (timesOf past) now → (sessionStep C s (.checkTimeouts now)).1 = s) := by
  have hnoted : Noted s (timesOf past) := by
    rw [← hs, ← hpast]
    exact noted_run serverId hops
  have hiff := checkTimeouts_iff (C := C) hnoted hok
  rcases virpSessionCheckTimeouts_cases s now with he | ⟨err, he⟩
  · have hkept : sessionStep C s (.checkTimeouts now) = (s, .ok) := by
      simp only [sessionStep, he, SessionAnswer.ofResult]
    refine ⟨fun helapsed => absurd ?_ (hiff.mpr helapsed), fun _ => by rw [hkept]⟩
    rw [hkept]
  · have hreset : sessionStep C s (.checkTimeouts now) = (sessionReset s, .failed err) := by
      simp only [sessionStep, he, SessionAnswer.ofResult]
    refine ⟨fun _ => by rw [hreset], fun hnot => absurd (hiff.mp ?_) hnot⟩
    rw [hreset]
    exact fun h => by cases h

namespace HandshakeSample

/-- A session that is activated at 1004. -/
def activated : List SessionOp :=
  [.hello hello helloEnv, .bind bind, .derive zeroDigest ⟨false, false, zeroDigest, 1004⟩]

theorem steps_signed :
    Steps (sessionStep crypto) Timely (sessionInit (text "node")) (activated ++ [.sign 2000]) := by
  decide +kernel

end HandshakeSample

section
open HandshakeSample

/-- A session that signed something once is reset 5 minutes later. -/
theorem timeouts_of_run_signed :
    Steps (sessionStep crypto) Timely (sessionInit (text "node")) (activated ++ [.sign 2000]) ∧
    (sessionStep crypto (final (sessionStep crypto) (sessionInit (text "node"))
      (activated ++ [.sign 2000])) (.checkTimeouts 300000002001)).1.state = .disconnected := by
  refine ⟨steps_signed, ?_⟩
  -- the run is named, so that nothing below evaluates it
  generalize hs : final (sessionStep crypto) (sessionInit (text "node"))
    (activated ++ [.sign 2000]) = s
  generalize hpast : trace (sessionStep crypto) (sessionInit (text "node"))
    (activated ++ [.sign 2000]) = past
  have htimely : Timely s (.checkTimeouts 300000002001) := by
    subst hs
    decide +kernel
  obtain ⟨hreset, -⟩ := timeouts_of_run (text "node") _ steps_signed hs hpast _ htimely
  have helapsed : Elapsed s.state (timesOf past) 300000002001 := by
    subst hs hpast
    decide +kernel
  rw [hreset helapsed, state_sessionReset]

/-- A session that never signed anything stays active for ever; one that did is reset when the
clock is set back by a nanosecond; so is one that waits for its BIND; and an observation that
could not be signed keeps a session alive. -/
theorem timeouts_missed_and_early :
    (let s := final (sessionStep crypto) (sessionInit (text "node")) activated
     let past := trace (sessionStep crypto) (sessionInit (text "node")) activated
     s.state = .active ∧ (timesOf past).idleSince + 300 * 1000000000 < 18446744073709551615 ∧
     (sessionStep crypto s (.checkTimeouts 18446744073709551615)).1 = s) ∧
    (let s := final (sessionStep crypto) (sessionInit (text "node")) (activated ++ [.sign 2000])
     let past := trace (sessionStep crypto) (sessionInit (text "node")) (activated ++ [.sign 2000])
     s.state = .active ∧ ¬ (timesOf past).idleSince + 300 * 1000000000 < 1999 ∧
     (sessionStep crypto s (.checkTimeouts 1999)).1 = sessionReset s) ∧
    (let s := final (sessionStep crypto) (sessionInit (text "node")) [.hello hello helloEnv]
     let past := trace (sessionStep crypto) (sessionInit (text "node")) [.hello hello helloEnv]
     s.state = .negotiated ∧ (timesOf past).answered = some 1001 ∧
     (sessionStep crypto s (.checkTimeouts 1000)).1 = sessionReset s) ∧
    (let ops := activated ++ [.sign 2000, .signFails 300000001000 .invalidLength]
     let s := final (sessionStep crypto) (sessionInit (text "node")) ops
     let past := trace (sessionStep crypto) (sessionInit (text "node")) ops
     s.state = .active ∧ (timesOf past).idleSince + 300 * 1000000000 < 300000002001 ∧
     (sessionStep crypto s (.checkTimeouts 300000002001)).1 = s) := by
  decide +kernel

end

end Virp
