import Virp.Library.Wire
import Virp.Crypto
import Virp.Errors

/-! # Messages of version 1

A message is a header of 56 bytes and a payload.  The last 32 bytes of the header are an HMAC
of everything else.  A key is for one channel: observations are signed with an O-Key, proposals
and intents with an R-Key.

OpenSSL's HMAC is taken not to fail, and pointers that the functions check for null are given.
-/
namespace Virp

open Wire List

/-! ## Numbers of the format -/

/-- The message types. -/
def msgObservation : UInt8 := 0x01
def msgHello : UInt8 := 0x02
def msgProposal : UInt8 := 0x10
def msgApproval : UInt8 := 0x11
def msgIntentAdv : UInt8 := 0x20
def msgIntentWd : UInt8 := 0x21
def msgHeartbeat : UInt8 := 0x30
def msgTeardown : UInt8 := 0xF0

/-- The channels. -/
def channelOc : UInt8 := 0x01
def channelIc : UInt8 := 0x02

/-- The tiers, as bytes. -/
def tierGreen : UInt8 := 0x01
def tierYellow : UInt8 := 0x02
def tierRed : UInt8 := 0x03
def tierBlack : UInt8 := 0xFF

theorem tier_le_red_iff {t : UInt8} : (¬ t = tierBlack ∧ ¬ tierRed < t) ↔ t ≤ tierRed := by
  refine ⟨fun ht => UInt8.not_lt.mp ht.2, fun ht => ⟨fun hb => ?_, UInt8.not_lt.mpr ht⟩⟩
  rw [hb] at ht
  exact absurd ht (by decide)

def maxMessageSize : Nat := 65536

def maxPayloadSize : Nat := maxMessageSize - 56

/-- `virp_key_type_t`. -/
inductive KeyType where
  | okey | rkey | chain
deriving DecidableEq, Repr

/-- `virp_signing_key_t`. -/
structure SigningKey where
  key : Digest
  loaded : Bool
  type : KeyType
  fingerprint : Digest
deriving DecidableEq

def checkChannelKeyBinding (channel : UInt8) (type : KeyType) : Except VirpError Unit :=
  if channel = channelOc ∧ type ≠ .okey then .error .channelViolation
  else if channel = channelIc ∧ type ≠ .rkey then .error .channelViolation
  else .ok ()

/-! ## The header -/

/-- `virp_header_t`. -/
structure Header where
  version : UInt8
  type : UInt8
  length : UInt16
  nodeId : UInt32
  channel : UInt8
  tier : UInt8
  reserved : UInt16
  seqNum : UInt32
  timestampNs : UInt64
  hmac : Digest
deriving DecidableEq

/-- The 32 bytes at an offset. -/
def digestAt (off : Nat) (b : Bytes) : Digest :=
  if h : (slice off 32 b).length = 32 then ⟨slice off 32 b, h⟩ else zeroDigest

theorem digestAt_eq {off : Nat} {b : Bytes} {d : Digest} (h : slice off 32 b = d.bytes) :
    digestAt off b = d := by
  have hlen : (slice off 32 b).length = 32 := by rw [h, d.length_eq]
  rw [digestAt, dif_pos hlen]
  cases d
  congr

/-- `virp_header_init`, at a time. -/
def headerInit (type channel tier : UInt8) (nodeId seqNum : UInt32) (now : UInt64) :
    Except VirpError Header :=
  if tier = tierBlack then .error .tierViolation
  else .ok ⟨1, type, 0, nodeId, channel, tier, 0, seqNum, now, zeroDigest⟩

variable (h : Header)

/-- What `virp_header_serialize` writes in front of the HMAC. -/
def headerFields : Bytes :=
  [h.version] ++ ([h.type] ++ (be16 h.length ++ (be32 h.nodeId ++ ([h.channel] ++ ([h.tier] ++
    ([0, 0] ++ (be32 h.seqNum ++ be64 h.timestampNs)))))))

def headerSerialize (bufLen : Nat) : Except VirpError Bytes :=
  if bufLen < 56 then .error .bufferTooSmall else .ok (headerFields h ++ h.hmac.bytes)

def headerDeserialize (buf : Bytes) : Except VirpError Header :=
  if buf.length < 56 then .error .bufferTooSmall
  else .ok
    { version := byteAt 0 buf
      type := byteAt 1 buf
      length := u16At 2 buf
      nodeId := u32At 4 buf
      channel := byteAt 8 buf
      tier := byteAt 9 buf
      reserved := u16At 10 buf
      seqNum := u32At 12 buf
      timestampNs := u64At 16 buf
      hmac := digestAt 24 buf }

def headerValidate : Except VirpError Unit :=
  if h.version ≠ 1 then .error .invalidVersion
  else if h.type ∉ [msgObservation, msgHello, msgProposal, msgApproval, msgIntentAdv, msgIntentWd,
      msgHeartbeat, msgTeardown] then .error .invalidType
  else if h.channel ≠ channelOc ∧ h.channel ≠ channelIc then .error .invalidChannel
  else if h.tier = tierBlack then .error .tierViolation
  else if tierRed < h.tier then .error .invalidTier
  else if h.reserved ≠ 0 then .error .reservedNonzero
  else if h.length.toNat < 56 then .error .invalidLength
  else .ok ()

def checkChannelType (channel type : UInt8) : Except VirpError Unit :=
  if type ∈ [msgObservation, msgHello, msgHeartbeat] then
    if channel ≠ channelOc then .error .channelViolation else .ok ()
  else if type ∈ [msgProposal, msgApproval, msgIntentAdv, msgIntentWd] then
    if channel ≠ channelIc then .error .channelViolation else .ok ()
  else if type = msgTeardown then .ok ()
  else .error .invalidType

/-- Everything but the HMAC. -/
def signedPart (msg : Bytes) : Bytes := msg.take 24 ++ msg.drop 56

variable (C : Crypto)

/-- `virp_sign`: the message with its HMAC. -/
def virpSign (msg : Bytes) (sk : SigningKey) : Except VirpError Bytes :=
  if sk.loaded = false then .error .keyNotLoaded
  else if msg.length < 56 then .error .bufferTooSmall
  else do
    checkChannelKeyBinding (byteAt 8 msg) sk.type
    if maxMessageSize < (signedPart msg).length then .error .messageTooLarge
    else .ok (msg.take 24 ++ (C.hmac sk.key.bytes (signedPart msg)).bytes ++ msg.drop 56)

def virpVerify (msg : Bytes) (sk : SigningKey) : Except VirpError Unit :=
  if sk.loaded = false then .error .keyNotLoaded
  else if msg.length < 56 then .error .bufferTooSmall
  else do
    checkChannelKeyBinding (byteAt 8 msg) sk.type
    if maxMessageSize < (signedPart msg).length then .error .messageTooLarge
    else if slice 24 32 msg = (C.hmac sk.key.bytes (signedPart msg)).bytes then .ok ()
    else .error .hmacFailed

def validateMessage (msg : Bytes) (sk : SigningKey) : Except VirpError Header :=
  if msg.length < 56 then .error .bufferTooSmall
  else do
    let hdr ← headerDeserialize msg
    headerValidate hdr
    checkChannelType hdr.channel hdr.type
    if hdr.length.toNat ≠ msg.length then .error .invalidLength
    else do
      virpVerify C msg sk
      .ok hdr

def buildAndSign (bufLen : Nat) (type channel tier : UInt8) (nodeId seqNum : UInt32) (now : UInt64)
    (payload : Bytes) (sk : SigningKey) : Except VirpError Bytes :=
  let total := 56 + payload.length
  if maxMessageSize < total ∨ 65535 < total then .error .messageTooLarge
  else if bufLen < total then .error .bufferTooSmall
  else do
    let hdr ← headerInit type channel tier nodeId seqNum now
    let head ← headerSerialize { hdr with length := .ofNat total } bufLen
    virpSign C (head ++ payload) sk

/-! ## What was built is read back -/

@[simp] theorem length_headerFields : (headerFields h).length = 24 := by
  simp [headerFields]

theorem headerDeserialize_fields (rest : Bytes) (hres : h.reserved = 0) :
    headerDeserialize (headerFields h ++ (h.hmac.bytes ++ rest)) = .ok h := by
  have hlen : ¬ (headerFields h ++ (h.hmac.bytes ++ rest)).length < 56 := by
    simp only [length_append, length_headerFields, h.hmac.length_eq]
    omega
  have hhmac : digestAt 24 (headerFields h ++ (h.hmac.bytes ++ rest)) = h.hmac := by
    apply digestAt_eq
    rw [slice_append (Nat.le_of_eq (length_headerFields h)), length_headerFields,
      slice_zero h.hmac.length_eq]
  rw [headerDeserialize, if_neg hlen, hhmac]
  obtain ⟨version, type, length, nodeId, channel, tier, reserved, seqNum, timestampNs, hmac⟩ := h
  subst hres
  simp [headerFields, byteAt, u16At, u32At, u64At, slice_append, slice_zero]
  rfl

/-- The header of a message that `build_and_sign` returns. -/
def sentHeader (type channel tier : UInt8) (nodeId seqNum : UInt32) (now : UInt64) (payload : Bytes)
    (sk : SigningKey) : Header :=
  let hdr : Header := ⟨1, type, .ofNat (56 + payload.length), nodeId, channel, tier, 0, seqNum, now,
    zeroDigest⟩
  { hdr with hmac := C.hmac sk.key.bytes (headerFields hdr ++ payload) }

theorem headerFields_hmac (d : Digest) : headerFields { h with hmac := d } = headerFields h := rfl

/-- The bytes of a message. -/
def messageBytes (payload : Bytes) : Bytes := headerFields h ++ (h.hmac.bytes ++ payload)

theorem length_messageBytes (payload : Bytes) :
    (messageBytes h payload).length = 56 + payload.length := by
  simp only [messageBytes, length_append, length_headerFields, h.hmac.length_eq]
  omega

theorem drop_messageBytes (payload : Bytes) : (messageBytes h payload).drop 56 = payload := by
  rw [messageBytes, ← append_assoc]
  exact drop_left' (by rw [length_append, length_headerFields, h.hmac.length_eq])

theorem signedPart_messageBytes (payload : Bytes) :
    signedPart (messageBytes h payload) = headerFields h ++ payload := by
  rw [signedPart, drop_messageBytes, messageBytes, take_left' (length_headerFields h)]

theorem byteAt_messageBytes (payload : Bytes) : byteAt 8 (messageBytes h payload) = h.channel := by
  simp [messageBytes, headerFields, byteAt, slice_append]

/-- The header fields and the payload of a message are signed. -/
theorem virpSign_messageBytes (h : Header) (payload : Bytes) (sk : SigningKey) :
    virpSign C (messageBytes h payload) sk =
      if sk.loaded = false then .error .keyNotLoaded
      else checkChannelKeyBinding h.channel sk.type >>= fun _ =>
        if maxMessageSize < 24 + payload.length then .error .messageTooLarge
        else .ok (messageBytes { h with hmac := C.hmac sk.key.bytes (headerFields h ++ payload) }
          payload) := by
  have hlen : ¬ (messageBytes h payload).length < 56 := by
    rw [length_messageBytes]
    omega
  rw [virpSign, if_neg hlen, byteAt_messageBytes, signedPart_messageBytes, drop_messageBytes,
    length_append, length_headerFields]
  simp only [messageBytes, take_left' (length_headerFields h), headerFields_hmac, append_assoc]

variable {payload : Bytes} {sk : SigningKey}

variable {bufLen : Nat} {type channel tier : UInt8} {nodeId seqNum : UInt32} {now : UInt64}
  {m : Bytes}

/-- **What is built.**  A message is built exactly if it fits, its tier is not BLACK, and the key
is loaded and not bound to another channel. -/
theorem buildAndSign_eq_ok_iff :
    buildAndSign C bufLen type channel tier nodeId seqNum now payload sk = .ok m ↔
      (56 + payload.length ≤ 65535 ∧ 56 + payload.length ≤ bufLen ∧ tier ≠ tierBlack ∧
        sk.loaded = true ∧ checkChannelKeyBinding channel sk.type = .ok ()) ∧
      messageBytes (sentHeader C type channel tier nodeId seqNum now payload sk) payload = m := by
  have hlarge : (maxMessageSize < 56 + payload.length ∨ 65535 < 56 + payload.length) ↔
      ¬ 56 + payload.length ≤ 65535 := by
    simp only [maxMessageSize]
    omega
  simp only [buildAndSign, hlarge]
  by_cases hfit : 56 + payload.length ≤ 65535
  · by_cases hbuf : 56 + payload.length ≤ bufLen
    · by_cases htier : tier = tierBlack
      · rw [if_neg (not_not.mpr hfit), if_neg (Nat.not_lt.mpr hbuf), headerInit, if_pos htier]
        exact ⟨nofun, fun h => absurd htier h.1.2.2.1⟩
      have hhead : ¬ bufLen < 56 := by omega
      have hroom : ¬ maxMessageSize < 24 + payload.length := by simp only [maxMessageSize]; omega
      rw [if_neg (not_not.mpr hfit), if_neg (Nat.not_lt.mpr hbuf), headerInit, if_neg htier]
      simp only [headerSerialize, if_neg hhead]
      show virpSign C _ sk = _ ↔ _
      rw [append_assoc, ← messageBytes, virpSign_messageBytes]
      cases hloaded : sk.loaded with
      | false => simp
      | true =>
        rw [if_neg nofun]
        cases hbind : checkChannelKeyBinding channel sk.type with
        | error e => exact ⟨nofun, fun h => nomatch h.1.2.2.2.2⟩
        | ok _ =>
          show (if _ then _ else _) = Except.ok m ↔ _
          rw [if_neg hroom, Except.ok.injEq]
          exact ⟨fun h => ⟨⟨hfit, hbuf, htier, rfl, rfl⟩, h⟩, fun h => h.2⟩
    · rw [if_neg (not_not.mpr hfit), if_pos (Nat.not_le.mp hbuf)]
      exact ⟨nofun, fun h => absurd h.1.2.1 hbuf⟩
  · rw [if_pos hfit]
    exact ⟨nofun, fun h => absurd h.1.1 hfit⟩

/-- A message that holds its length and its HMAC is accepted if its header is valid and its type
belongs to its channel. -/
theorem validateMessage_messageBytes {h : Header} (hres : h.reserved = 0)
    (hlen : h.length.toNat = 56 + payload.length) (hloaded : sk.loaded = true)
    (hbind : checkChannelKeyBinding h.channel sk.type = .ok ())
    (hmac : h.hmac = C.hmac sk.key.bytes (headerFields h ++ payload)) :
    validateMessage C (messageBytes h payload) sk =
      (headerValidate h >>= fun _ => checkChannelType h.channel h.type >>= fun _ => .ok h) := by
  have hshort : ¬ (messageBytes h payload).length < 56 := by
    rw [length_messageBytes]
    omega
  have hroom : ¬ maxMessageSize < 24 + payload.length := by
    have := h.length.toNat_lt
    simp only [maxMessageSize]
    omega
  have hfield : slice 24 32 (messageBytes h payload) = h.hmac.bytes := by
    rw [messageBytes, slice_append (Nat.le_of_eq (length_headerFields h)), length_headerFields,
      slice_zero h.hmac.length_eq]
  have hverify : virpVerify C (messageBytes h payload) sk = .ok () := by
    rw [virpVerify, if_neg (by rw [hloaded]; nofun), if_neg hshort, byteAt_messageBytes, hbind,
      signedPart_messageBytes, hfield, ← hmac]
    show (if _ then _ else _) = _
    rw [length_append, length_headerFields, if_neg hroom, if_pos rfl]
  rw [validateMessage, if_neg hshort, messageBytes, headerDeserialize_fields h payload hres,
    ← messageBytes]
  show (headerValidate h >>= fun _ => checkChannelType h.channel h.type >>= fun _ => _) = _
  rw [if_neg (by rw [hlen, length_messageBytes]; exact not_not.mpr rfl), hverify]
  rfl

/-- **What is built is accepted** if its type, channel and tier are valid. -/
theorem validateMessage_built
    (h : buildAndSign C bufLen type channel tier nodeId seqNum now payload sk = .ok m) :
    m.drop 56 = payload ∧ validateMessage C m sk =
      (headerValidate (sentHeader C type channel tier nodeId seqNum now payload sk) >>= fun _ =>
        checkChannelType channel type >>= fun _ =>
          .ok (sentHeader C type channel tier nodeId seqNum now payload sk)) := by
  obtain ⟨⟨hfit, -, -, hloaded, hbind⟩, rfl⟩ := (buildAndSign_eq_ok_iff C).mp h
  refine ⟨drop_messageBytes .., validateMessage_messageBytes C rfl ?_ hloaded hbind rfl⟩
  rw [sentHeader, UInt16.toNat_ofNat_of_lt' (by rw [UInt16.size]; omega)]

end Virp
