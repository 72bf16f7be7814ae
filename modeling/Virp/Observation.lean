import Virp.Message
import Virp.CommandHashes
import Virp.Handshake
import Virp.SeqstoreRuns

/-! # Observations of versions 2 and 3

An observation of version 2 is a header of 88 bytes, a payload, and an HMAC of both under the
key of the session.  Version 3 has an Ed25519 signature of all of that behind it.  Whoever accepts
an observation of version 2 checks the HMAC first and gives its sequence number to the replay
store last.

OpenSSL's HMAC and libsodium's signing are taken not to fail.
-/
namespace Virp

open Wire

/-- `virp_obs_header_v2_t`. -/
structure ObsHeader where
  version : UInt8
  channel : UInt8
  tier : UInt8
  reserved : UInt8
  nodeId : UInt64
  timestampNs : UInt64
  seqNum : UInt64
  sessionId : SessionId
  deviceId : UInt64
  commandHash : Digest
  payloadLen : UInt32
deriving DecidableEq

/-- The 16 bytes at an offset. -/
def sessionIdAt (off : Nat) (b : Bytes) : SessionId :=
  if h : (slice off 16 b).length = 16 then ⟨slice off 16 b, h⟩ else .fill 16 0

/-- What `virp_obs_header_v2_serialize` writes. -/
def ObsHeader.bytes (h : ObsHeader) : Bytes :=
  [h.version] ++ ([h.channel] ++ ([h.tier] ++ ([0] ++ (be64 h.nodeId ++ (be64 h.timestampNs ++
    (be64 h.seqNum ++ (h.sessionId.bytes ++ (be64 h.deviceId ++ (h.commandHash.bytes ++
      be32 h.payloadLen)))))))))

/-- `virp_obs_header_v2_serialize`. -/
def obsHeaderSerialize (h : ObsHeader) (bufLen : Nat) : Except VirpError Bytes :=
  if bufLen < 88 then .error .bufferTooSmall
  else if h.reserved ≠ 0 then .error .reservedNonzero
  else .ok h.bytes

/-- `virp_obs_header_v2_deserialize`. -/
def obsHeaderDeserialize (buf : Bytes) : Except VirpError ObsHeader :=
  if buf.length < 88 then .error .bufferTooSmall
  else .ok
    { version := byteAt 0 buf
      channel := byteAt 1 buf
      tier := byteAt 2 buf
      reserved := byteAt 3 buf
      nodeId := u64At 4 buf
      timestampNs := u64At 12 buf
      seqNum := u64At 20 buf
      sessionId := sessionIdAt 28 buf
      deviceId := u64At 44 buf
      commandHash := digestAt 52 buf
      payloadLen := u32At 84 buf }

def obsHeaderSanity (h : ObsHeader) (expectedVersion : UInt8) (msgLen trailerLen : Nat) :
    Except VirpError Unit :=
  if msgLen < 88 + trailerLen then .error .bufferTooSmall
  else if h.version ≠ expectedVersion then .error .versionMismatch
  else if h.channel ≠ channelOc then .error .invalidChannel
  else if h.tier = tierBlack then .error .tierViolation
  else if tierRed < h.tier then .error .invalidTier
  else if h.reserved ≠ 0 then .error .reservedNonzero
  else if h.payloadLen.toNat ≠ msgLen - 88 - trailerLen then .error .invalidLength
  else .ok ()

/-- What an observation says, besides what the session and the clock add. -/
structure ObsArgs where
  nodeId : UInt64
  deviceId : UInt64
  tier : UInt8
  seqNum : UInt64
  command : Bytes
  typedProfile : Option Bytes
  payload : Bytes

/-- The two clock readings of a builder: one for the session, one for the header. -/
structure ObsTimes where
  activity : UInt64
  stamp : UInt64

/-- An active session with a key, and the time noted in it. -/
def noteActivity (s : VirpSession) (now : UInt64) : Except VirpError VirpSession :=
  if s.state ≠ .active then .error .sessionInvalid
  else if s.sessionKeyValid = false then .error .keyNotLoaded
  else .ok { s with lastActivityNs := now }

variable (C : Crypto)

/-- The header that is filled in, if the command has a hash. -/
def obsHeader (version : UInt8) (s : VirpSession) (stamp : UInt64) (a : ObsArgs) :
    Except VirpError ObsHeader :=
  match commandHash C a.command a.typedProfile with
  | none => .error .invalidLength
  | some hash => .ok ⟨version, channelOc, a.tier, 0, a.nodeId, stamp, a.seqNum, s.sessionId,
      a.deviceId, hash, .ofNat a.payload.length⟩

/-- `virp_sign_observation_v2`: the session afterwards, and the header and HMAC. -/
def signObservationV2 (s : VirpSession) (t : ObsTimes) (a : ObsArgs) :
    VirpSession × Except VirpError (ObsHeader × Digest) :=
  if maxMessageSize < a.payload.length then (s, .error .messageTooLarge)
  else match noteActivity s t.activity with
  | .error err => (s, .error err)
  | .ok s => (s, do
      let hdr ← obsHeader C 2 s t.stamp a
      if maxMessageSize < 88 + a.payload.length then .error .messageTooLarge
      else do
        let head ← obsHeaderSerialize hdr maxMessageSize
        .ok (hdr, C.hmac s.sessionKey.bytes (head ++ a.payload)))

def buildObservationV2 (s : VirpSession) (t : ObsTimes) (a : ObsArgs) (outBufLen : Nat) :
    VirpSession × Except VirpError Bytes :=
  let total := 88 + a.payload.length + 32
  if maxMessageSize < a.payload.length then (s, .error .messageTooLarge)
  else if maxMessageSize < total then (s, .error .messageTooLarge)
  else if outBufLen < total then (s, .error .bufferTooSmall)
  else
    let (s, signed) := signObservationV2 C s t a
    (s, do
      let (hdr, sig) ← signed
      let head ← obsHeaderSerialize hdr outBufLen
      .ok (head ++ (a.payload ++ sig.bytes)))

/-- `virp_obskey_t`. -/
structure ObsKey where
  seed : Bytes
  publicKey : Digest
  loaded : Bool

def buildObservationEd25519 (s : VirpSession) (obskey : ObsKey) (t : ObsTimes) (a : ObsArgs)
    (outBufLen : Nat) : VirpSession × Except VirpError Bytes :=
  let total := 88 + a.payload.length + 32 + 64
  if obskey.loaded = false then (s, .error .keyNotLoaded)
  else if maxMessageSize < a.payload.length then (s, .error .messageTooLarge)
  else if maxMessageSize < total then (s, .error .messageTooLarge)
  else if outBufLen < total then (s, .error .bufferTooSmall)
  else match noteActivity s t.activity with
  | .error err => (s, .error err)
  | .ok s => (s, do
      let hdr ← obsHeader C 3 s t.stamp a
      let head ← obsHeaderSerialize hdr outBufLen
      let hmac := C.hmac s.sessionKey.bytes (head ++ a.payload)
      let signed := head ++ (a.payload ++ hmac.bytes)
      .ok (signed ++ (C.sign obskey.seed signed).bytes))

/-! ## Checking -/

/-- The 64 bytes at an offset. -/
def signatureAt (off : Nat) (b : Bytes) : Signature :=
  if h : (slice off 64 b).length = 64 then ⟨slice off 64 b, h⟩ else zeroSignature

/-- `virp_verify_observation_ed25519`: the header and the payload. -/
def verifyObservationEd25519 (publicKey msg : Bytes) : Except VirpError (ObsHeader × Bytes) :=
  if msg.length < 184 ∨ maxMessageSize < msg.length then .error .invalidLength
  else do
    let hdr ← obsHeaderDeserialize msg
    obsHeaderSanity hdr 3 msg.length (32 + 64)
    let sigSpan := 88 + hdr.payloadLen.toNat + 32
    if C.verify publicKey (msg.take sigSpan) (signatureAt sigSpan msg) = false then
      .error .obsSigInvalid
    else .ok (hdr, slice 88 hdr.payloadLen.toNat msg)

/-- The checks that `virp_verify_observation_v2` and `virp_verify_observation_v2_signature` have in
common: lengths, HMAC, header. -/
def checkObservationV2 (sessionKey msg : Bytes) : Except VirpError ObsHeader :=
  let signedLen := msg.length - 32
  if msg.drop signedLen ≠ (C.hmac sessionKey (msg.take signedLen)).bytes then .error .hmacFailed
  else do
    let hdr ← obsHeaderDeserialize msg
    obsHeaderSanity hdr 2 msg.length 32
    .ok hdr

/-- What an observation is checked against. -/
structure ObsExpected where
  deviceId : UInt64
  command : Bytes
  typedProfile : Option Bytes
  /-- `now_ns`; zero stands for the clock. -/
  nowNs : UInt64
  clock : UInt64

def ObsExpected.now (e : ObsExpected) : UInt64 := if e.nowNs = 0 then e.clock else e.nowNs

/-- The distance of two times. -/
def skew (now stamp : UInt64) : UInt64 := if stamp < now then now - stamp else stamp - now

/-- `virp_verify_observation_v2` without the replay store. -/
def checkObservationFor (s : VirpSession) (e : ObsExpected) (msg : Bytes) :
    Except VirpError ObsHeader :=
  if msg.length < 120 then .error .bufferTooSmall
  else if maxMessageSize < msg.length then .error .messageTooLarge
  else if s.state ≠ .active then .error .sessionInvalid
  else if s.sessionKeyValid = false then .error .keyNotLoaded
  else do
    let hdr ← checkObservationV2 C s.sessionKey.bytes msg
    if hdr.sessionId ≠ s.sessionId then .error .sessionInvalid
    else if hdr.deviceId ≠ e.deviceId then .error .contextMismatch
    else match commandHash C e.command e.typedProfile with
    | none => .error .invalidLength
    | some hash =>
      if hdr.commandHash ≠ hash then .error .contextMismatch
      else if 300 * 1000000000 < skew e.now hdr.timestampNs then .error .staleObservation
      else .ok hdr

/-- `virp_verify_observation_v2`, on a store whose save succeeds or not. -/
def virpVerifyObservationV2 (s : VirpSession) (e : ObsExpected) (msg : Bytes) (saved : Bool)
    (st : SeqState) : SeqState × Except VirpError (ObsHeader × Bytes) :=
  match checkObservationFor C s e msg with
  | .error err => (st, .error err)
  | .ok hdr =>
    match seqStep st (.accept (hdr.sessionId, hdr.nodeId) hdr.seqNum saved) with
    | (st, .ok _) => (st, .ok (hdr, slice 88 hdr.payloadLen.toNat msg))
    | (st, .refused err) => (st, .error err)
    -- an accept has no other answer
    | (st, _) => (st, .error .chainDb)

end Virp
