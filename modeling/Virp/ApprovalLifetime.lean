import Virp.Execute
import Virp.ApprovalRecords

/-! # The lifetime of an approval

The clock is read twice for an approval: when it is verified, and once more under the
consume lock, after the connection was made.  Both tests add 64-bit numbers whose sums can
come round.

Verification accepts what the inequalities over the integers accept, as long as both sums
are below 2^64, and nothing else: a sum that comes round makes the test refuse.  The second
test only looks at the end of the lifetime, of an approval that passed the first.
-/
namespace Virp

open Threads Prog UInt64

/-- The end of the lifetime, over the integers. -/
def ApprovalRec.endNs (a : ApprovalRec) : Nat :=
  a.approvedAtNs.toNat + a.ttlSeconds.toNat * 1000000000

/-- The lifetime over the integers, with a minute of clock skew in front. -/
structure InLifetime (a : ApprovalRec) (now : UInt64) : Prop where
  started : a.approvedAtNs.toNat ≤ now.toNat + 60 * 1000000000
  unexpired : now.toNat ≤ a.endNs

/-- The two sums of verification stay below 2^64. -/
structure SumsFit (a : ApprovalRec) (now : UInt64) : Prop where
  end_lt : a.endNs < 2 ^ 64
  skew_lt : now.toNat + 60 * 1000000000 < 2 ^ 64

theorem toNat_expiry (a : ApprovalRec) : a.expiry.toNat = a.endNs % 2 ^ 64 := by
  simp only [ApprovalRec.expiry, ApprovalRec.endNs, UInt64.toNat_add, UInt64.toNat_mul,
    UInt32.toNat_toUInt64, UInt64.toNat_ofNat]
  omega

/-- **The test of verification.**  A sum that comes round makes one of the two comparisons
refuse, since a lifetime of 32 bits in seconds is less than a quarter of the clock's range. -/
theorem lifetimeTest_iff (a : ApprovalRec) (now : UInt64) :
    ¬ (a.expiry < now ∨ now + 60 * 1000000000 < a.approvedAtNs) ↔
      InLifetime a now ∧ SumsFit a now := by
  have ha := a.approvedAtNs.toNat_lt
  have hn := now.toNat_lt
  have httl := a.ttlSeconds.toNat_lt
  have hend : a.endNs = a.approvedAtNs.toNat + a.ttlSeconds.toNat * 1000000000 := rfl
  simp only [not_or, UInt64.lt_iff_toNat_lt, toNat_expiry, UInt64.toNat_add, UInt64.toNat_mul,
    UInt64.toNat_ofNat, Nat.not_lt]
  constructor
  · rintro ⟨hexp, hskew⟩
    refine ⟨⟨?_, ?_⟩, ⟨?_, ?_⟩⟩ <;> omega
  · rintro ⟨⟨hstart, hlive⟩, ⟨hfit, hfit'⟩⟩
    constructor <;> omega

/-- **The test before dispatch**, as long as the end of the lifetime fits. -/
theorem expiryTest_iff {a : ApprovalRec} {now : UInt64} (h : a.endNs < 2 ^ 64) :
    ¬ a.expiry < now ↔ now.toNat ≤ a.endNs := by
  rw [lt_iff_toNat_lt, toNat_expiry, Nat.mod_eq_of_lt h, Nat.not_lt]

section
variable {C : Crypto} {reg : List Approver} {t : ApprovalTarget} {now : UInt64} {a : ApprovalRec}

theorem checkApproval_eq_none_iff : checkApproval C reg t now a = none ↔
      SignedFor C reg t a ∧ InLifetime a now ∧ SumsFit a now := by
  constructor
  · intro h
    have hs := signedFor_of_checkApproval (.inl h)
    rw [hs.checkApproval_eq] at h
    refine ⟨hs, (lifetimeTest_iff a now).mp fun hbad => ?_⟩
    rw [if_pos hbad] at h
    cases h
  · rintro ⟨hs, htime⟩
    rw [hs.checkApproval_eq]
    exact if_neg ((lifetimeTest_iff a now).mpr htime)

theorem checkApproval_eq_expired_iff : checkApproval C reg t now a = some .approvalExpired ↔
      SignedFor C reg t a ∧ ¬ (InLifetime a now ∧ SumsFit a now) := by
  constructor
  · intro h
    have hs := signedFor_of_checkApproval (.inr h)
    rw [hs.checkApproval_eq] at h
    refine ⟨hs, fun htime => ?_⟩
    rw [if_neg ((lifetimeTest_iff a now).mpr htime)] at h
    cases h
  · rintro ⟨hs, htime⟩
    rw [hs.checkApproval_eq]
    exact if_pos (not_not.mp fun hbad => htime ((lifetimeTest_iff a now).mp hbad))

end

/-- A clock that reads `now`; anything may come of the other operations. -/
def ClockReads (now : UInt64) (o : Daemon.Op) : Daemon.Res o → Prop :=
  match (o : Op) with
  | .now => fun r => r = now
  | _ => fun _ => True

/-- What comes of consuming an approval, by the second test of its lifetime. -/
theorem consumeApproval_expired_iff {L : Libs} {cfg : OnodeConfig} {g : GateContext}
    {apr : Approved} {now : UInt64} {c : Consumption}
    (h : (consumeApproval L cfg g apr).Returns (ClockReads now) c) :
    c = .expired ↔ apr.record.expiry < now := by
  rw [consumeApproval, returns_bind] at h
  obtain ⟨r, hr, h⟩ := h
  obtain rfl : r = now := returns_perform.mp hr
  constructor
  · rintro rfl
    by_contra hlive
    rw [if_neg hlive, returns_bind] at h
    obtain ⟨reused, -, h⟩ := h
    split at h
    · cases h
    rw [returns_bind] at h
    obtain ⟨res, -, h⟩ := h
    split at h
    · cases h
    rw [returns_bind] at h
    obtain ⟨-, -, h⟩ := h
    cases h
  · intro hexp
    rw [if_pos hexp] at h
    exact h.symm

/-! ## Both tests -/

/-- **The lifetime of an approval over the integers.**  Apart from the checks that do not read
the clock, verification accepts an approval exactly in its lifetime, and nothing while one of
its sums comes round.  The second test only looks at the end of the lifetime: nothing expired
passes it, and it is exact for an end below 2^64, as that of every verified approval is. -/
theorem approval_lifetime (C : Crypto) (reg : List Approver) (t : ApprovalTarget)
    (a : ApprovalRec) (now : UInt64) :
    (checkApproval C reg t now a = none ↔
      SignedFor C reg t a ∧ InLifetime a now ∧ SumsFit a now) ∧
    (checkApproval C reg t now a = some .approvalExpired ↔
      SignedFor C reg t a ∧ ¬ (InLifetime a now ∧ SumsFit a now)) ∧
    ∀ L cfg g id later c,
      (consumeApproval L cfg g ⟨id, a⟩).Returns (ClockReads later) c →
      (c ≠ .expired → later.toNat ≤ a.endNs) ∧
      (a.endNs < 2 ^ 64 ∨ checkApproval C reg t now a = none →
        (c ≠ .expired ↔ later.toNat ≤ a.endNs)) := by
  refine ⟨checkApproval_eq_none_iff, checkApproval_eq_expired_iff, ?_⟩
  intro L cfg g id later c hc
  have hexp := consumeApproval_expired_iff hc
  refine ⟨fun hne => ?_, fun hfit => ?_⟩
  · have hlive : ¬ a.expiry < later := fun h => hne (hexp.mpr h)
    rw [lt_iff_toNat_lt, Nat.not_lt] at hlive
    exact hlive.trans ((toNat_expiry a).trans_le (Nat.mod_le _ _))
  · have hend : a.endNs < 2 ^ 64 := by
      rcases hfit with hend | hok
      · exact hend
      · exact (checkApproval_eq_none_iff.mp hok).2.2.end_lt
    exact (not_congr hexp).trans (expiryTest_iff hend)

namespace ApprovalSample

/-- The same approval, given in the last nanosecond of the clock. -/
def lastRecord : ApprovalRec :=
  { record with
    approvedAtNs := 18446744073709551615
    sig := signatureOfHex lastSigHex }
where
  lastSigHex : Bytes := text ("12d9b3051d46821271213c3e03759f951a7f63cce1cac1c73fe47e606d766e72" ++
    "8211924210d01b4c9e670fddc3869a60c983c28ba6373fbf0e70100b51cfb50d")

def lastCrypto : Crypto :=
  .known [(text "reload in 5", commandHash)] [] [(seed, publicKey)]
    [((seed, (lastRecord.signedFields.payload).getD []), lastRecord.lastSigHex)]

/-- A daemon with a chain. -/
def chained : OnodeConfig :=
  { config with
    evidenceRequired := true
    chain := some ⟨1, .copy 64 (text "local"), plain_local, [], true, false, none, .empty 17,
      none, false, false, false⟩ }

/-- The gate's view of `reload in 5`. -/
def reload : GateContext where
  device := text "r1"
  drv := ⟨.copy 32 (text "mock"), none, none, false, none⟩
  command := text "reload in 5"
  tier := .yellow
  effMax := .green
  mode := .enforce
  uid := 1000
  obsVersion := 1
  wrappingV3 := false

/-- An entry, as an append returns one. -/
def entry : Entry :=
  ⟨.copy 64 (text "gate-enforce:r1"), 1, .copy 65 commandHash, .copy 65 commandHash, 0, 0,
    .copy 16 (text "gate_intent"), .copy 128 (text "gateintent-"), .copy 65 commandHash,
    .copy 8 (text "sha256"), .copy 8 (text "1"), 1, .copy 64 (text "local"), .empty 65, .empty 129,
    .empty 33⟩

/-- Whatever the clock reads before the end of the lifetime, the approval can be consumed. -/
theorem consumes {now : UInt64} (h : ¬ record.expiry < now) :
    (consumeApproval libs chained reload ⟨id, record⟩).Returns (ClockReads now)
      (.committed entry) := by
  refine returns_bind.mpr ⟨now, returns_perform.mpr rfl, ?_⟩
  rw [if_neg h]
  refine returns_bind.mpr ⟨false, rfl, ?_⟩
  rw [if_neg Bool.false_ne_true]
  refine returns_bind.mpr ⟨.ok entry, ?_, ?_⟩
  · -- the intent: nothing fails
    refine returns_bind.mpr ⟨false, returns_perform.mpr trivial, ?_⟩
    refine returns_bind.mpr ⟨none, rfl, ?_⟩
    refine returns_bind.mpr ⟨now, returns_perform.mpr rfl, ?_⟩
    refine returns_bind.mpr ⟨none, rfl, ?_⟩
    refine returns_bind.mpr ⟨some [], returns_perform.mpr trivial, ?_⟩
    exact returns_perform.mpr trivial
  · -- `consumed.list` is not there yet
    have hvalid : ¬ proposalIdValid id = false := by decide +kernel
    refine returns_bind.mpr ⟨none, ?_, rfl⟩
    rw [virpApprovalCommitConsumeLocked, if_neg hvalid]
    refine returns_bind.mpr ⟨.error .noent, returns_perform.mpr trivial, ?_⟩
    exact returns_perform.mpr trivial

end ApprovalSample

section
open ApprovalSample

/-- Verified in time, and consumed a minute later. -/
theorem approval_lifetime_reload :
    InLifetime record 1000000000001 ∧ record.endNs < 2 ^ 64 ∧
    (Consumption.committed entry ≠ .expired ↔ (1060000000000 : UInt64).toNat ≤ record.endNs) := by
  obtain ⟨haccepted, -, hconsumed⟩ :=
    approval_lifetime crypto [approver] target record 1000000000001
  obtain ⟨-, hlife, hfits⟩ := haccepted.mp (by decide +kernel)
  exact ⟨hlife, hfits.end_lt, (hconsumed libs chained reload ApprovalSample.id 1060000000000 _
    (consumes (by decide +kernel))).2 (.inl hfits.end_lt)⟩

/-- An approval of the last nanosecond of the clock is refused at once; and one that was
verified in time is consumed although the clock has been set back by two minutes since. -/
theorem lifetime_tests_differ :
    (InLifetime lastRecord 18446744073709551615 ∧
      checkApproval lastCrypto [approver] target 18446744073709551615 lastRecord =
        some .approvalExpired) ∧
    checkApproval crypto [approver] target 1000000000000 record = none ∧
    ¬ InLifetime record 880000000000 ∧
    (consumeApproval libs chained reload ⟨ApprovalSample.id, record⟩).Returns
      (ClockReads 880000000000) (.committed entry) := by
  refine ⟨⟨⟨by decide +kernel, by decide +kernel⟩, by decide +kernel⟩, by decide +kernel, ?_,
    consumes (by decide +kernel)⟩
  intro h
  exact absurd h.started (by decide +kernel)

end

end Virp
