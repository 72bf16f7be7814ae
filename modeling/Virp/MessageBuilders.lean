import Virp.Message

/-! # The message builders and parsers

Each builder puts its payload together and signs it; each parser reads a payload that has been
validated.  The payloads of a proposal and of an intent are written into a buffer on the stack
before their size is checked, so a write past its end is a possible outcome here.
-/
namespace Virp

open Wire

/-- A pointer to data and its length.  The pointer may be null, whatever the length. -/
structure DataArg where
  bytes : Option Bytes
  len : UInt16
  length_eq : ∀ b, bytes = some b → b.length = len.toNat

/-- The bytes that are there. -/
def DataArg.given (d : DataArg) : Bytes := d.bytes.getD []

/-- `virp_obs_ref_t`. -/
structure ObsRef where
  nodeId : UInt32
  seqNum : UInt32
deriving DecidableEq, Repr

/-- An array of references and its count. -/
structure RefsArg where
  refs : List ObsRef
  length_lt : refs.length < 2 ^ 32

def RefsArg.count (r : RefsArg) : UInt32 := .ofNat r.refs.length

/-- Why nothing was built: an error was returned, or a write went past the payload buffer. -/
inductive BuildFault where
  | refused (err : VirpError)
  | overrun
deriving DecidableEq, Repr

/-- `memcpy(payload + offset, b, n); offset += n` on a buffer of `cap` bytes. -/
def put (cap : Nat) (b out : Bytes) : Except BuildFault Bytes :=
  if out.length + b.length ≤ cap then .ok (out ++ b) else .error .overrun

/-- The loop over the references. -/
def putRefs (cap : Nat) : List ObsRef → Bytes → Except BuildFault Bytes
  | [], out => .ok out
  | r :: refs, out => do
    let out ← put cap (be32 r.nodeId) out
    let out ← put cap (be32 r.seqNum) out
    putRefs cap refs out

/-- The data behind the references, if there is any. -/
def putData (cap : Nat) (data : DataArg) (out : Bytes) : Except BuildFault Bytes :=
  match data.bytes with
  | some b => if 0 < data.len then put cap b out else .ok out
  | none => .ok out

/-- The payload of a proposal or an intent: four fields of 12 bytes in all, references, data. -/
def putEvidence (cap : Nat) (id : UInt32) (kind second : UInt8) (third : UInt16) (refs : RefsArg)
    (data : DataArg) : Except BuildFault Bytes := do
  let out ← put cap (be32 id) []
  let out ← put cap [kind] out
  let out ← put cap [second] out
  let out ← put cap (be16 third) out
  let out ← put cap (be32 refs.count) out
  let out ← putRefs cap refs.refs out
  putData cap data out

/-! ## The builders -/

section
variable (C : Crypto) (bufLen : Nat) (now : UInt64) (nodeId seqNum : UInt32)

def buildObservationTiered (obsType obsScope tier : UInt8) (data : DataArg) (sk : SigningKey) :
    Except VirpError Bytes :=
  if 65535 - 56 - 4 < data.len.toNat then .error .messageTooLarge
  else if data.len ≠ 0 ∧ data.bytes = none then .error .nullPtr
  else buildAndSign C bufLen msgObservation channelOc tier nodeId seqNum now
    ([obsType] ++ ([obsScope] ++ (be16 data.len ++ data.given))) sk

def buildObservation (obsType obsScope : UInt8) (data : DataArg) (sk : SigningKey) :
    Except VirpError Bytes :=
  buildObservationTiered C bufLen now nodeId seqNum obsType obsScope tierGreen data sk

def buildProposal (proposalId : UInt32) (propType : UInt8) (blastRadius : UInt16)
    (refs : RefsArg) (data : DataArg) (sk : SigningKey) : Except BuildFault Bytes :=
  if refs.refs.length = 0 then .error (.refused .noEvidence)
  else if 64 < refs.refs.length then .error (.refused .messageTooLarge)
  else do
    -- the state is PROPOSED
    let payload ← putEvidence maxPayloadSize proposalId propType 0x01 blastRadius refs data
    (buildAndSign C bufLen msgProposal channelIc tierYellow nodeId seqNum now payload sk).mapError
      .refused

def buildApproval (proposalId approverNodeId : UInt32) (approvalType approverClass : UInt8)
    (sk : SigningKey) : Except VirpError Bytes :=
  buildAndSign C bufLen msgApproval channelIc tierYellow nodeId seqNum now
    (be32 proposalId ++ (be32 approverNodeId ++ [approvalType, approverClass, 0, 0])) sk

def buildIntentAdvertise (intentId : UInt32) (intentType priority : UInt8) (ttlSeconds : UInt16)
    (proofs : RefsArg) (data : DataArg) (sk : SigningKey) : Except BuildFault Bytes := do
  let payload ← putEvidence maxPayloadSize intentId intentType priority ttlSeconds proofs data
  (buildAndSign C bufLen msgIntentAdv channelIc tierYellow nodeId seqNum now payload sk).mapError
    .refused

def buildIntentWithdraw (intentId : UInt32) (sk : SigningKey) : Except VirpError Bytes :=
  buildAndSign C bufLen msgIntentWd channelIc tierYellow nodeId seqNum now (be32 intentId) sk

def buildHeartbeat (uptimeSeconds : UInt32) (onodeOk rnodeOk : Bool) (activeObservations : UInt16)
    (activeProposals : UInt32) (sk : SigningKey) : Except VirpError Bytes :=
  buildAndSign C bufLen msgHeartbeat channelOc tierGreen nodeId seqNum now
    (be32 uptimeSeconds ++ ([if onodeOk then 1 else 0, if rnodeOk then 1 else 0] ++
      (be16 activeObservations ++ be32 activeProposals))) sk

/-- The fingerprint of the R-Key, zero if there is none. -/
def rkeyFingerprint (rkey : Option SigningKey) : Digest :=
  match rkey with
  | some k => if k.loaded then k.fingerprint else zeroDigest
  | none => zeroDigest

def buildHello (nodeType maxTier : UInt8) (okey : SigningKey) (rkey : Option SigningKey) :
    Except VirpError Bytes :=
  buildAndSign C bufLen msgHello channelOc tierGreen nodeId seqNum now
    (be32 0x56495250 ++ ([1, nodeType, maxTier, 0] ++ (be32 nodeId ++
      (okey.fingerprint.bytes ++ (rkeyFingerprint rkey).bytes)))) okey

/-- `virp_build_teardown`.  The reason is a C string, cut to 252 bytes. -/
def buildTeardown (channel : UInt8) (reason : Option Bytes) (sk : SigningKey) :
    Except VirpError Bytes :=
  let reason := (cstr (reason.getD [])).take 252
  buildAndSign C bufLen msgTeardown channel tierGreen nodeId seqNum now
    (be16 (.ofNat reason.length) ++ reason) sk

end

/-! ## The parsers -/

/-- The byte order of the host. -/
inductive ByteOrder where
  | little | big
deriving DecidableEq, Repr

/-- A 32-bit number as the host reads it from memory. -/
def ByteOrder.u32 (order : ByteOrder) (b : Bytes) : UInt32 :=
  match order with
  | .little => .ofNat (leValue b)
  | .big => .ofNat (beValue b)

/-- `virp_observation_t`. -/
structure ObservationHead where
  obsType : UInt8
  obsScope : UInt8
  obsLength : UInt16
deriving DecidableEq

variable (payload : Bytes)

/-- `virp_parse_observation`: the head, the data or null, and its length. -/
def parseObservation : Except VirpError (ObservationHead × Option Bytes × UInt16) :=
  if payload.length < 4 then .error .bufferTooSmall
  else
    let obs : ObservationHead := ⟨byteAt 0 payload, byteAt 1 payload, u16At 2 payload⟩
    if payload.length - 4 < obs.obsLength.toNat then .error .invalidLength
    else .ok (obs, if 0 < obs.obsLength then some (slice 4 obs.obsLength.toNat payload) else none,
      obs.obsLength)

/-- `virp_proposal_t`. -/
structure ProposalHead where
  proposalId : UInt32
  propType : UInt8
  propState : UInt8
  blastRadius : UInt16
  obsRefCount : UInt32
deriving DecidableEq

/-- `virp_parse_proposal`: the head, the references as the host reads them in place, the data or
null, and its length. -/
def parseProposal (order : ByteOrder) (payload : Bytes) :
    Except VirpError (ProposalHead × List ObsRef × Option Bytes × UInt16) :=
  if payload.length < 12 then .error .bufferTooSmall
  else
    let prop : ProposalHead :=
      ⟨u32At 0 payload, byteAt 4 payload, byteAt 5 payload, u16At 6 payload, u32At 8 payload⟩
    let count := prop.obsRefCount.toNat
    if count = 0 then .error .noEvidence
    else if 64 < count then .error .messageTooLarge
    else if payload.length - 12 < 8 * count then .error .invalidLength
    else
      let refs := (List.range count).map (fun i =>
        (⟨order.u32 (slice (12 + 8 * i) 4 payload), order.u32 (slice (16 + 8 * i) 4 payload)⟩ : ObsRef))
      let dataOffset := 12 + 8 * count
      let dataLen : UInt16 :=
        if dataOffset < payload.length then .ofNat (payload.length - dataOffset) else 0
      let data := if dataOffset < payload.length then some (slice dataOffset dataLen.toNat payload)
        else none
      .ok (prop, refs, data, dataLen)

/-- `virp_approval_t`, without the reserved field, which is set to zero. -/
structure ApprovalBody where
  proposalId : UInt32
  approverNodeId : UInt32
  approvalType : UInt8
  approverClass : UInt8
deriving DecidableEq

def parseApproval : Except VirpError ApprovalBody :=
  if payload.length < 12 then .error .bufferTooSmall
  else .ok ⟨u32At 0 payload, u32At 4 payload, byteAt 8 payload, byteAt 9 payload⟩

/-- `virp_heartbeat_t`. -/
structure Heartbeat where
  uptimeSeconds : UInt32
  onodeOk : UInt8
  rnodeOk : UInt8
  activeObservations : UInt16
  activeProposals : UInt32
deriving DecidableEq

def parseHeartbeat : Except VirpError Heartbeat :=
  if payload.length < 12 then .error .bufferTooSmall
  else .ok ⟨u32At 0 payload, byteAt 4 payload, byteAt 5 payload, u16At 6 payload, u32At 8 payload⟩

/-- `virp_hello_t`. -/
structure HelloBody where
  magic : UInt32
  version : UInt8
  nodeType : UInt8
  maxTier : UInt8
  reserved : UInt8
  nodeId : UInt32
  okeyFingerprint : Digest
  rkeyFingerprint : Digest
deriving DecidableEq

def parseHello : Except VirpError HelloBody :=
  if payload.length < 76 then .error .bufferTooSmall
  else .ok ⟨u32At 0 payload, byteAt 4 payload, byteAt 5 payload, byteAt 6 payload,
    byteAt 7 payload, u32At 8 payload, digestAt 12 payload, digestAt 44 payload⟩

end Virp
