import Virp.Library.Edits
import Virp.MessageRoundTrip

/-! # The messages of the Go implementation

The Go package writes and reads the messages of the C library.  Its validator makes the same checks
in the same order, except for two: a message may be longer than its length field says, and then the
bytes up to that length are verified.  Its builders limit a message to 65536 bytes, one more than
the 16-bit length field can say.

The checks of header fields, of channel and type and of channel and key are those of the C functions,
with the same error codes.
-/
namespace Virp

open Wire List

variable {C : Crypto} {msg m : Bytes} {sk : SigningKey} {hdr : Header} {nodeId seqNum : UInt32}
  {now : UInt64}

/-! ## Validation -/

/-- `Verify`. -/
def goVerify (C : Crypto) (msg : Bytes) (sk : SigningKey) : Except VirpError Unit :=
  if sk.loaded = false then .error .keyNotLoaded
  else if msg.length < 56 then .error .bufferTooSmall
  else do
    checkChannelKeyBinding (byteAt 8 msg) sk.type
    if slice 24 32 msg = (C.hmac sk.key.bytes (signedPart msg)).bytes then .ok ()
    else .error .hmacFailed

/-- `ValidateMessage`. -/
def goValidateMessage (C : Crypto) (msg : Bytes) (sk : SigningKey) : Except VirpError Header :=
  if msg.length < 56 then .error .bufferTooSmall
  else do
    let hdr ← headerDeserialize msg
    headerValidate hdr
    checkChannelType hdr.channel hdr.type
    if msg.length < hdr.length.toNat then .error .invalidLength
    else do
      goVerify C (msg.take hdr.length.toNat) sk
      .ok hdr

theorem goVerify_eq (C : Crypto) (sk : SigningKey) (h : msg.length ≤ maxMessageSize) :
    goVerify C msg sk = virpVerify C msg sk := by
  have hroom : ¬ maxMessageSize < (signedPart msg).length := by
    simp only [signedPart, length_append, length_take, length_drop]
    omega
  simp only [goVerify, virpVerify, if_neg hroom]

/-- The header is read from the first 56 bytes. -/
theorem headerDeserialize_take {k : Nat} (hk : 56 ≤ k) :
    headerDeserialize (msg.take k) = headerDeserialize msg := by
  have hlen : (msg.take k).length < 56 ↔ msg.length < 56 := by
    rw [length_take]
    omega
  simp (disch := omega) only [headerDeserialize, hlen, byteAt, u16At, u32At, u64At, digestAt, slice_take]

/-- What the C validator accepts. -/
theorem validateMessage_ok_iff :
    validateMessage C msg sk = .ok hdr ↔ headerDeserialize msg = .ok hdr ∧ headerValidate hdr = .ok () ∧
      checkChannelType hdr.channel hdr.type = .ok () ∧ hdr.length.toNat = msg.length ∧
      virpVerify C msg sk = .ok () := by
  have hshort : msg.length < 56 → headerDeserialize msg ≠ .ok hdr := by
    intro h hread
    rw [headerDeserialize, if_pos h] at hread
    cases hread
  simp only [validateMessage, guard_ok, bind_ok, not_not, Except.ok.injEq]
  constructor
  · rintro ⟨-, _, hread, _, hvalid, _, htype, hlen, _, hverify, rfl⟩
    exact ⟨hread, hvalid, htype, hlen, hverify⟩
  · rintro ⟨hread, hvalid, htype, hlen, hverify⟩
    exact ⟨fun h => hshort h hread, hdr, hread, (), hvalid, (), htype, hlen, (), hverify, rfl⟩

/-- **The Go validator accepts what the C validator accepts of the bytes up to the length field.** -/
theorem goValidateMessage_ok_iff : goValidateMessage C msg sk = .ok hdr ↔
      validateMessage C (msg.take hdr.length.toNat) sk = .ok hdr := by
  have hmax : (msg.take hdr.length.toNat).length ≤ maxMessageSize := by
    have := hdr.length.toNat_lt
    rw [length_take, maxMessageSize]
    omega
  rw [validateMessage_ok_iff, ← goVerify_eq C sk hmax]
  simp only [goValidateMessage, guard_ok, bind_ok, Nat.not_lt, Except.ok.injEq]
  constructor
  · rintro ⟨-, _, hread, _, hvalid, _, htype, hlen, _, hverify, rfl⟩
    have h56 := (headerValidate_eq_ok_iff.mp hvalid).2.2.2.2.2
    exact ⟨(headerDeserialize_take h56).trans hread, hvalid, htype,
      (length_take_of_le hlen).symm, hverify⟩
  · rintro ⟨hread, hvalid, htype, hlen, hverify⟩
    have h56 := (headerValidate_eq_ok_iff.mp hvalid).2.2.2.2.2
    rw [length_take] at hlen
    exact ⟨by omega, hdr, (headerDeserialize_take h56).symm.trans hread, (), hvalid, (), htype,
      by omega, (), hverify, rfl⟩

/-- The validators agree on a message: both accept it with the same header, or both refuse it. -/
def ValidatorsAgree (C : Crypto) (msg : Bytes) (sk : SigningKey) : Prop :=
  ∀ hdr, goValidateMessage C msg sk = .ok hdr ↔ validateMessage C msg sk = .ok hdr

/-- The message goes on behind its length, and up to there the C validator accepts it. -/
def TrailsAccepted (C : Crypto) (msg : Bytes) (sk : SigningKey) : Prop :=
  (u16At 2 msg).toNat < msg.length ∧
    ∃ hdr, validateMessage C (msg.take (u16At 2 msg).toNat) sk = .ok hdr

theorem length_of_headerDeserialize (h : headerDeserialize msg = .ok hdr) :
    hdr.length = u16At 2 msg := by
  rw [headerDeserialize, guard_ok, Except.ok.injEq] at h
  rw [← h.2]

theorem validatorsAgree_iff (C : Crypto) (msg : Bytes) (sk : SigningKey) :
    ValidatorsAgree C msg sk ↔ ¬ TrailsAccepted C msg sk := by
  constructor
  · rintro hagree ⟨hlt, hdr, hok⟩
    obtain ⟨hread, hvalid, -, hlen, -⟩ := validateMessage_ok_iff.mp hok
    -- the header says the length of the bytes in front
    have hfield : hdr.length.toNat = (u16At 2 msg).toNat := by
      rw [hlen, length_take_of_le (Nat.le_of_lt hlt)]
    have hwhole := (hagree hdr).mp (goValidateMessage_ok_iff.mpr (hfield ▸ hok))
    have := (validateMessage_ok_iff.mp hwhole).2.2.2.1
    omega
  · intro htrail hdr
    rw [goValidateMessage_ok_iff]
    constructor
    · intro hok
      obtain ⟨hread, hvalid, -, hlen, -⟩ := validateMessage_ok_iff.mp hok
      have h56 := (headerValidate_eq_ok_iff.mp hvalid).2.2.2.2.2
      have hfield := length_of_headerDeserialize ((headerDeserialize_take h56).symm.trans hread)
      have hnot : ¬ hdr.length.toNat < msg.length := fun hlt =>
        htrail ⟨hfield ▸ hlt, hdr, hfield ▸ hok⟩
      rwa [take_of_length_le (Nat.le_of_not_lt hnot)] at hok
    · intro hok
      rwa [(validateMessage_ok_iff.mp hok).2.2.2.1, take_length]

/-! ## Building -/

/-- `Sign`. -/
def goSign (C : Crypto) (msg : Bytes) (sk : SigningKey) : Except VirpError Bytes :=
  if sk.loaded = false then .error .keyNotLoaded
  else if msg.length < 56 then .error .bufferTooSmall
  else do
    checkChannelKeyBinding (byteAt 8 msg) sk.type
    .ok (msg.take 24 ++ (C.hmac sk.key.bytes (signedPart msg)).bytes ++ msg.drop 56)

/-- `buildAndSign`. -/
def goBuildAndSign (C : Crypto) (type channel tier : UInt8) (nodeId seqNum : UInt32) (now : UInt64)
    (payload : Bytes) (sk : SigningKey) : Except VirpError Bytes :=
  let total := 56 + payload.length
  if maxMessageSize < total then .error .messageTooLarge
  else if tier = tierBlack then .error .tierViolation
  else goSign C (messageBytes ⟨1, type, .ofNat total, nodeId, channel, tier, 0, seqNum, now,
    zeroDigest⟩ payload) sk

/-- A call of a builder, all but the node, the sequence number and the key. -/
inductive GoBuild where
  | observation (obsType obsScope : UInt8) (data : Bytes)
  | heartbeat (uptimeSeconds : UInt32) (onodeOk rnodeOk : Bool) (activeObservations : UInt16)
      (activeProposals : UInt32)
  | proposal (proposalId : UInt32) (propType : UInt8) (blastRadius : UInt16) (refs : List ObsRef)
      (data : Bytes)
  | approval (proposalId approverNodeId : UInt32) (approvalType approverClass : UInt8)
  | intentAdvertise (intentId : UInt32) (intentType priority : UInt8) (ttlSeconds : UInt16)
      (proofs : List ObsRef) (data : Bytes)
  | intentWithdraw (intentId : UInt32)
  | teardown (channel : UInt8) (reason : Bytes)
  | hello (nodeType maxTier : UInt8) (rkey : Option SigningKey)

/-- The payload of a proposal or an intent. -/
def goEvidence (id : UInt32) (kind second : UInt8) (third : UInt16) (refs : List ObsRef)
    (data : Bytes) : Bytes :=
  be32 id ++ ([kind, second] ++ (be16 third ++ (be32 (.ofNat refs.length) ++
    (refs.flatMap ObsRef.bytes ++ data))))

namespace GoBuild

/-- The payload; data of an observation is cut to 65476 bytes, a reason to 252. -/
def payload (nodeId : UInt32) (sk : SigningKey) : GoBuild → Bytes
  | observation obsType obsScope data =>
    let data := data.take (maxPayloadSize - 4)
    [obsType] ++ ([obsScope] ++ (be16 (.ofNat data.length) ++ data))
  | heartbeat uptimeSeconds onodeOk rnodeOk activeObservations activeProposals =>
    be32 uptimeSeconds ++ ([if onodeOk then 1 else 0, if rnodeOk then 1 else 0] ++
      (be16 activeObservations ++ be32 activeProposals))
  | proposal proposalId propType blastRadius refs data =>
    goEvidence proposalId propType 0x01 blastRadius refs data
  | approval proposalId approverNodeId approvalType approverClass =>
    be32 proposalId ++ (be32 approverNodeId ++ [approvalType, approverClass, 0, 0])
  | intentAdvertise intentId intentType priority ttlSeconds proofs data =>
    goEvidence intentId intentType priority ttlSeconds proofs data
  | intentWithdraw intentId => be32 intentId
  | teardown _ reason => be16 (.ofNat (reason.take 252).length) ++ reason.take 252
  | hello nodeType maxTier rkey =>
    be32 0x56495250 ++ ([1, nodeType, maxTier, 0] ++ (be32 nodeId ++
      (sk.fingerprint.bytes ++ (rkeyFingerprint rkey).bytes)))

/-- The type, channel and tier in the header. -/
def head : GoBuild → UInt8 × UInt8 × UInt8
  | observation .. => (msgObservation, channelOc, tierGreen)
  | heartbeat .. => (msgHeartbeat, channelOc, tierGreen)
  | proposal .. => (msgProposal, channelIc, tierYellow)
  | approval .. => (msgApproval, channelIc, tierYellow)
  | intentAdvertise .. => (msgIntentAdv, channelIc, tierYellow)
  | intentWithdraw .. => (msgIntentWd, channelIc, tierYellow)
  | teardown channel _ => (msgTeardown, channel, tierGreen)
  | hello .. => (msgHello, channelOc, tierGreen)

/-- What a builder refuses before it lays out the payload. -/
def refused : GoBuild → Option VirpError
  | proposal _ _ _ refs _ =>
    if refs.length = 0 then some .noEvidence else if 64 < refs.length then some .messageTooLarge
    else none
  | _ => none

def build (C : Crypto) (now : UInt64) (nodeId seqNum : UInt32) (sk : SigningKey) (call : GoBuild) :
    Except VirpError Bytes :=
  match call.refused with
  | some e => .error e
  | none => goBuildAndSign C call.head.1 call.head.2.1 call.head.2.2 nodeId seqNum now
      (call.payload nodeId sk) sk

end GoBuild

/-- `ParseObservation`: the type, the scope and the data. -/
def goParseObservation (payload : Bytes) : Except VirpError (UInt8 × UInt8 × Bytes) :=
  if payload.length < 4 then .error .bufferTooSmall
  else
    let dataLen := (u16At 2 payload).toNat
    .ok (byteAt 0 payload, byteAt 1 payload,
      if 0 < dataLen ∧ 4 + dataLen ≤ payload.length then slice 4 dataLen payload else [])

/-- `ParseHeartbeat`. -/
def goParseHeartbeat (payload : Bytes) : Except VirpError (UInt32 × Bool × Bool × UInt16 × UInt32) :=
  if payload.length < 12 then .error .bufferTooSmall
  else .ok (u32At 0 payload, byteAt 4 payload != 0, byteAt 5 payload != 0, u16At 6 payload,
    u32At 8 payload)

/-- The Go parser returns what was given; there is one for observations and heartbeats. -/
def GoBuild.ReadBack (payload : Bytes) : GoBuild → Prop
  | .observation obsType obsScope data =>
    goParseObservation payload = .ok (obsType, obsScope, data.take (maxPayloadSize - 4))
  | .heartbeat uptimeSeconds onodeOk rnodeOk activeObservations activeProposals =>
    goParseHeartbeat payload =
      .ok (uptimeSeconds, onodeOk, rnodeOk, activeObservations, activeProposals)
  | _ => True

/-- Both validators accept the message with the header of the call, behind it stands the payload, and
it is read back. -/
def GoBuild.Delivered (C : Crypto) (nodeId seqNum : UInt32) (sk : SigningKey) (m : Bytes)
    (call : GoBuild) : Prop :=
  AcceptedAs C m sk call.head.1 call.head.2.1 call.head.2.2 nodeId seqNum ∧ ValidatorsAgree C m sk ∧
    m.drop 56 = call.payload nodeId sk ∧ call.ReadBack (m.drop 56)

/-- The message fits its length field, and a teardown is on a channel there is. -/
def GoBuild.Sound (nodeId : UInt32) (sk : SigningKey) (call : GoBuild) : Prop :=
  56 + (call.payload nodeId sk).length ≤ 65535 ∧
    (call.head.2.1 = channelOc ∨ call.head.2.1 = channelIc)

theorem goBuildAndSign_ok {type channel tier : UInt8} {payload : Bytes}
    (h : goBuildAndSign C type channel tier nodeId seqNum now payload sk = .ok m) :
    (tier ≠ tierBlack ∧ sk.loaded = true ∧ checkChannelKeyBinding channel sk.type = .ok ()) ∧
      messageBytes (sentHeader C type channel tier nodeId seqNum now payload sk) payload = m := by
  simp only [goBuildAndSign, goSign, guard_ok, bind_ok, byteAt_messageBytes, Bool.not_eq_false,
    Except.ok.injEq] at h
  obtain ⟨-, htier, hloaded, -, _, hbind, rfl⟩ := h
  refine ⟨⟨htier, hloaded, hbind⟩, ?_⟩
  rw [signedPart_messageBytes, drop_messageBytes]
  simp only [messageBytes, take_left' (length_headerFields _), append_assoc]
  rfl

theorem readBack_payload (nodeId : UInt32) (sk : SigningKey) (call : GoBuild) :
    56 + (call.payload nodeId sk).length ≤ 65535 → call.ReadBack (call.payload nodeId sk) := by
  cases call with
  | observation obsType obsScope data =>
    intro hfit
    simp only [GoBuild.payload, GoBuild.ReadBack] at hfit ⊢
    generalize data.take (maxPayloadSize - 4) = data at hfit ⊢
    simp only [length_append, length_singleton, length_be16] at hfit
    have hlen : (UInt16.ofNat data.length).toNat = data.length :=
      UInt16.toNat_ofNat_of_lt' (by rw [UInt16.size]; omega)
    have hfield : u16At 2 ([obsType] ++ ([obsScope] ++ (be16 (.ofNat data.length) ++ data))) =
        .ofNat data.length := by
      simp [u16At, slice_zero]
    have hdata : slice 4 data.length ([obsType] ++ ([obsScope] ++ (be16 (.ofNat data.length) ++ data))) =
        data := by
      simp [slice_append, slice_self]
    rw [goParseObservation, if_neg (by simp), hfield, hlen]
    dsimp only
    rw [hdata]
    cases data with
    | nil => simp [byteAt]
    | cons c data => rw [if_pos (by simp; omega)]; simp [byteAt]
  | heartbeat uptimeSeconds onodeOk rnodeOk activeObservations activeProposals =>
    intro _
    simp only [GoBuild.payload, GoBuild.ReadBack, goParseHeartbeat]
    cases onodeOk <;> cases rnodeOk <;>
      simp [u32At, u16At, byteAt, slice_append, slice_zero, slice_self]
  | _ => exact fun _ => trivial

/-- **What a builder returns is delivered exactly if the call is sound.** -/
theorem delivered_iff {call : GoBuild} (h : call.build C now nodeId seqNum sk = .ok m) :
    call.Delivered C nodeId seqNum sk m ↔ call.Sound nodeId sk := by
  have hbuilt : goBuildAndSign C call.head.1 call.head.2.1 call.head.2.2 nodeId seqNum now
      (call.payload nodeId sk) sk = .ok m := by
    unfold GoBuild.build at h
    split at h
    · cases h
    · exact h
  obtain ⟨⟨htier, hloaded, hbind⟩, hm⟩ := goBuildAndSign_ok hbuilt
  have hlen : m.length = 56 + (call.payload nodeId sk).length := by rw [← hm, length_messageBytes]
  have hsmall : 56 + (call.payload nodeId sk).length ≤ 65535 →
      buildAndSign C m.length call.head.1 call.head.2.1 call.head.2.2 nodeId seqNum now
        (call.payload nodeId sk) sk = .ok m := fun hfit =>
    (buildAndSign_eq_ok_iff C).mpr ⟨⟨hfit, Nat.le_of_eq hlen.symm, htier, hloaded, hbind⟩, hm⟩
  constructor
  · rintro ⟨haccepted, -⟩
    obtain ⟨hdr, hok, -⟩ := id haccepted
    have hfield := (validateMessage_ok_iff.mp hok).2.2.2.1
    have hfit : 56 + (call.payload nodeId sk).length ≤ 65535 := by
      have := hdr.length.toNat_lt
      omega
    exact ⟨hfit, ((acceptedAs_iff C (hsmall hfit)).mp haccepted).1⟩
  · rintro ⟨hfit, hchannel⟩
    have hdrop := (validateMessage_built C (hsmall hfit)).1
    have haccepted := (acceptedAs_iff C (hsmall hfit)).mpr ⟨hchannel,
      by cases call <;> simp only [GoBuild.head] <;> decide, by cases call <;> rfl⟩
    refine ⟨haccepted, ?_, hdrop, hdrop.symm ▸ readBack_payload nodeId sk call hfit⟩
    obtain ⟨hdr, hok, -⟩ := haccepted
    obtain ⟨hread, -, -, hfield, -⟩ := validateMessage_ok_iff.mp hok
    refine (validatorsAgree_iff C m sk).mpr fun htrail => ?_
    have hlt := htrail.1
    rw [← length_of_headerDeserialize hread, hfield] at hlt
    exact Nat.lt_irrefl _ hlt

end Virp
