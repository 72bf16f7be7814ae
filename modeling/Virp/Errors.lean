import Virp.Bytes

/-! # Error codes

`virp_error_t` with its numbers and its texts.  `VIRP_OK` is no error and has no
constructor; `approvalAlreadyExists` is the one positive code, the answer to a submit
whose proposal has been approved before.
-/
namespace Virp

/-- `virp_error_t`. -/
inductive VirpError where
  | nullPtr | bufferTooSmall | invalidVersion | invalidType | invalidChannel | invalidTier
  | invalidLength | hmacFailed | channelViolation | tierViolation | replayDetected | noEvidence
  | staleObservation | keyNotLoaded | messageTooLarge | reservedNonzero | chainDb | chainBroken
  | chainSequence | fedKeyVersion | fedRevoked | fedUnverified | tenantViolation
  | intentNotFound | intentExpired | intentExhausted | versionMismatch | algorithmMismatch
  | channelUnsupported | sessionInvalid | contextMismatch | crypto | hostKeyMismatch
  | hostKeyUnknown | protocolVersion | approvalExpired | approvalReused | approvalHashMismatch
  | approvalDeviceMismatch | approvalBadSignature | approvalNotFound | approvalConsumed
  | approvalKeyUnenrolled | approvalKeyDisabled | noPrompt | duplicateDevice | chainReadonly
  | outcomeUnknown | obsSigInvalid | actionForbidden | duplicateMismatch
  | approvalStoreUnreadable | evidenceUnavailable | transportWrite | transportClosed
  | approvalStoreAbsent | approvalAlreadyExists
deriving DecidableEq, Repr

namespace VirpError

/-- The number of a code. -/
def code : VirpError → Int
  | nullPtr => -1 | bufferTooSmall => -2 | invalidVersion => -3 | invalidType => -4
  | invalidChannel => -5 | invalidTier => -6 | invalidLength => -7 | hmacFailed => -8
  | channelViolation => -9 | tierViolation => -10 | replayDetected => -11 | noEvidence => -12
  | staleObservation => -13 | keyNotLoaded => -14 | messageTooLarge => -15
  | reservedNonzero => -16 | chainDb => -17 | chainBroken => -18 | chainSequence => -19
  | fedKeyVersion => -20 | fedRevoked => -21 | fedUnverified => -22 | tenantViolation => -23
  | intentNotFound => -24 | intentExpired => -25 | intentExhausted => -26
  | versionMismatch => -27 | algorithmMismatch => -28 | channelUnsupported => -29
  | sessionInvalid => -30 | contextMismatch => -31 | crypto => -32 | hostKeyMismatch => -33
  | hostKeyUnknown => -34 | protocolVersion => -35 | approvalExpired => -36
  | approvalReused => -37 | approvalHashMismatch => -38 | approvalDeviceMismatch => -39
  | approvalBadSignature => -40 | approvalNotFound => -41 | approvalConsumed => -42
  | approvalKeyUnenrolled => -43 | approvalKeyDisabled => -44 | noPrompt => -45
  | duplicateDevice => -46 | chainReadonly => -47 | outcomeUnknown => -48 | obsSigInvalid => -49
  | actionForbidden => -50 | duplicateMismatch => -51 | approvalStoreUnreadable => -52
  | evidenceUnavailable => -53 | transportWrite => -54 | transportClosed => -55
  | approvalStoreAbsent => -56 | approvalAlreadyExists => 1

/-- `virp_error_str`. -/
def str : VirpError → Bytes
  | nullPtr => text "NULL pointer"
  | noPrompt => text "Read ended without device prompt (output incomplete)"
  | bufferTooSmall => text "Buffer too small"
  | invalidVersion => text "Invalid version"
  | invalidType => text "Invalid message type"
  | invalidChannel => text "Invalid channel"
  | invalidTier => text "Invalid tier"
  | invalidLength => text "Invalid length"
  | hmacFailed => text "HMAC verification failed"
  | channelViolation => text "Channel-key binding violation"
  | tierViolation => text "BLACK tier transmitted"
  | replayDetected => text "Replay detected"
  | noEvidence => text "Proposal has no supporting evidence"
  | staleObservation => text "Referenced observation expired"
  | keyNotLoaded => text "Signing key not loaded"
  | messageTooLarge => text "Message exceeds maximum size"
  | reservedNonzero => text "Reserved field is non-zero"
  | chainDb => text "Chain database error"
  | chainBroken => text "Chain integrity violated"
  | chainSequence => text "Chain sequence error"
  | fedKeyVersion => text "Federation key version too low"
  | fedRevoked => text "Federation key revoked"
  | fedUnverified => text "Unverified foreign peer"
  | tenantViolation => text "Tenant isolation violation"
  | intentNotFound => text "Intent not found in durable store"
  | intentExpired => text "Intent TTL exceeded"
  | intentExhausted => text "Intent max_commands reached"
  | versionMismatch => text "Protocol version mismatch"
  | algorithmMismatch => text "HMAC algorithm mismatch"
  | channelUnsupported => text "Unsupported channel type"
  | sessionInvalid => text "Invalid session ID"
  | contextMismatch => text "Context mismatch in verification"
  | crypto => text "Cryptographic operation failed"
  | hostKeyMismatch => text "SSH host key mismatch (possible MITM)"
  | hostKeyUnknown => text "SSH host key not in known_hosts"
  | protocolVersion => text "Unframed v1 request (upgrade client)"
  | approvalExpired => text "Approval expired (TTL elapsed)"
  | approvalReused => text "Approval already consumed (single-use)"
  | approvalHashMismatch => text "Approval bound to a different command"
  | approvalDeviceMismatch => text "Approval bound to a different device"
  | approvalBadSignature => text "Approval signature invalid"
  | approvalNotFound => text "Proposal or approval not found"
  | approvalStoreUnreadable => text "Approval store is not readable by this user"
  | approvalConsumed => text "Proposal already has an outcome"
  | approvalKeyUnenrolled => text "Approver key_id not enrolled"
  | approvalKeyDisabled => text "Approver key disabled"
  | duplicateDevice => text "Duplicate device identity (hostname/node_id/device_id)"
  | chainReadonly => text "Write refused on read-only verifier chain handle"
  | outcomeUnknown =>
    text "Outcome unknown: response absent after possible dispatch; not retried"
  | obsSigInvalid => text "Ed25519 observation signature invalid"
  | actionForbidden => text "Action not in the caller uid's allowed set"
  | duplicateMismatch => text "Federation artifact_id reused with different body bytes"
  | evidenceUnavailable =>
      text ("Evidence unavailable: pre-execution record could not be made " ++
        "durable; operation refused")
  | transportWrite =>
      text ("Transport write failed: the device channel would not accept bytes " ++
        "(peer closed, reset, or session idled out) - nothing was dispatched")
  | transportClosed =>
      text ("Transport closed: the device closed the session (idle timeout or " ++
        "reset) - nothing was dispatched; one reconnect is warranted")
  | approvalStoreAbsent =>
      text ("Approval store directory not present on this host (wrong host, " ++
        "or the store is not configured here)")
  | approvalAlreadyExists => text "Unknown error"

def approvalErrName : VirpError → Bytes
  | approvalExpired => text "approval_expired"
  | approvalReused => text "approval_reused"
  | approvalHashMismatch => text "approval_hash_mismatch"
  | approvalDeviceMismatch => text "approval_device_mismatch"
  | approvalBadSignature => text "approval_bad_signature"
  | approvalNotFound => text "approval_not_found"
  | approvalStoreUnreadable => text "approval_store_unreadable"
  | approvalConsumed => text "approval_proposal_consumed"
  | approvalKeyUnenrolled => text "approval_key_unenrolled"
  | approvalKeyDisabled => text "approval_key_disabled"
  | approvalAlreadyExists => text "approval_already_exists"
  | _ => text "error"

end VirpError

/-- A sequence of fallible steps returns OK if each of them does. -/
theorem bind_ok {ε α β : Type} {x : Except ε α} {f : α → Except ε β} {b : β} :
    (x >>= f) = .ok b ↔ ∃ a, x = .ok a ∧ f a = .ok b := by
  cases x with
  | error e => exact ⟨fun h => (nomatch h), fun ⟨_, h, _⟩ => (nomatch h)⟩
  | ok a => exact ⟨fun h => ⟨a, rfl, h⟩, fun ⟨_, h, hf⟩ => by cases h; exact hf⟩

/-- A check that is passed. -/
theorem guard_ok {ε α : Type} {c : Prop} [Decidable c] {e : ε} {x : Except ε α} {a : α} :
    (if c then .error e else x) = .ok a ↔ ¬ c ∧ x = .ok a := by
  split_ifs with h
  · exact iff_of_false nofun (fun h' => h'.1 h)
  · exact (and_iff_right h).symm

end Virp
