import Virp.Daemon

/-! # Proposing, approving and consuming

The programs of the approval store.  A refused command is filed as a proposal; the
approver submits a signature over the challenge they were given; an apply consumes
the approval.  The daemon is the only writer of both the store and the chain, and each of
these programs performs its durable steps one after the other.
-/
namespace Virp

open Threads

variable (L : Libs) (cfg : OnodeConfig)

/-- Print an object into a buffer. -/
def printWithin (cap : Nat) (o : Json) : DProg (Option Bytes) := do
  let s ← Sys.print o
  pure (s.bind fun s => if cap ≤ s.length then none else some s)

/-- The session of a device's approval records. -/
def approvalSession (device : Bytes) : Bytes := snprintfS 96 (text "approval:" ++ device)

/-- The append of a proposal, an approval or an outcome, under the id of its
proposal. -/
def approvalCall (type id device content : Bytes) : AppendCall where
  sessionId := approvalSession device
  artifactType := type
  artifactId := snprintfS 64 (type ++ 0x3A :: id)
  artifactHash := L.C.sha256Hex (cstr content)
  artifactContent := some content

variable (p : ProposalRec)

/-- The chain entry of a proposal, put into the record. -/
def proposalChainEntry (body : Bytes) : DProg (Except VirpError ProposalRec) :=
  if cfg.chain.isNone then pure (.ok p)
  else do
    let r ← Sys.append (approvalCall L (text "proposal") p.proposalId.bytes p.device.bytes body)
      (some (proposalJson p))
    pure (r.map fun e => { p with chainEntryHash := e.chainEntryHash })

/-- The end of `virp_approval_propose`: the record is complete but for its entry. -/
def fileProposal : DProg (Except VirpError ProposalRec) := do
  let body ← printWithin 2560 (proposalJson p)
  match body with
  | none => pure (.error .bufferTooSmall)
  | some body => do
    let r ← proposalChainEntry L cfg p body
    match r with
    | .error err => pure (.error err)
    | .ok p => do
      let err ← Sys.writeFile (.proposal p.proposalId.bytes) (proposalFile body p.chainEntryHash)
      pure (match err with
        | some err => .error err
        | none => .ok p)

/-- `virp_approval_propose`; the daemon passes the proposer as the session too. -/
def virpApprovalPropose (device : Device) (command : Bytes) (typedProfile : Option Bytes)
    (proposer tierName : Bytes) : DProg (Except VirpError ProposalRec) := do
  let dirs ← Sys.ensureDirs
  match dirs with
  | some err => pure (.error err)
  | none => do
    let rnd ← Sys.random
    match rnd, commandHashHex L.C command typedProfile with
    | none, _ => pure (.error .crypto)
    | _, none => pure (.error .invalidLength)
    | some rnd, some hash => do
      let now ← Sys.now
      fileProposal L cfg {
        proposalId := .copy 33 (hexEncode rnd)
        sessionId := .copy 64 proposer
        device := device.hostname
        deviceNodeId := device.nodeId
        command := .copy 1024 command
        commandHash := .copy 65 hash
        proposer := .copy 64 proposer
        timestampNs := now
        tier := .copy 16 tierName
        chainEntryHash := .empty 65 }

def virpApprovalLoadProposal (id : Bytes) : DProg (Except VirpError ProposalRec) :=
  if proposalIdValid id = false then pure (.error .approvalNotFound)
  else do
    let file ← Sys.readFile (.proposal id)
    let present ← Sys.storePresent
    pure (loadProposal L.parse id present file)

/-- `approval_has_outcome`; a query that fails counts as yes. -/
def approvalHasOutcome (id : Bytes) : DProg Bool :=
  if cfg.chain.isNone then pure false
  else do
    let r ← Sys.typeExists (snprintfS 64 (text "outcome:" ++ id)) (text "outcome")
    pure (match r with
      | .ok found => found
      | .error _ => true)

/-! ## Submitting an approval -/

/-- How a submit ends. -/
inductive SubmitResult where
  /-- `VIRP_OK`. -/
  | stored (a : ApprovalRec)
  /-- `VIRP_APPROVAL_ALREADY_EXISTS`, with the record that was there. -/
  | alreadyExists (a : ApprovalRec)
  | failed (err : VirpError)
deriving DecidableEq

variable (a : ApprovalRec)

def virpApprovalWriteRecord : DProg (Option VirpError) :=
  if proposalIdValid a.proposalId.bytes = false then pure (some .approvalNotFound)
  else do
    let dirs ← Sys.ensureDirs
    match dirs with
    | some err => pure (some err)
    | none => do
      let body ← printWithin 1700 (approvalJson a)
      match body with
      | none => pure (some .bufferTooSmall)
      | some body => Sys.writeFile (.approval a.proposalId.bytes) (approvalFile body a)

/-- The APPROVAL entry, put into the record. -/
def approvalChainEntry : DProg (Except VirpError ApprovalRec) :=
  if cfg.chain.isNone then pure (.ok a)
  else do
    let content ← printWithin 1700 (approvalJson a)
    match content with
    | none => pure (.error .bufferTooSmall)
    | some content => do
      let r ← Sys.append
        (approvalCall L (text "approval") a.proposalId.bytes a.device.bytes content)
        (some (approvalJson a))
      pure (r.map fun e => { a with chainEntryHash := e.chainEntryHash })

/-- Append the entry, then write the record: two durable steps. -/
def recordApproval : DProg SubmitResult := do
  let r ← approvalChainEntry L cfg a
  match r with
  | .error err => pure (.failed err)
  | .ok a => do
    let err ← virpApprovalWriteRecord a
    pure (match err with
      | none => .stored a
      | some err => .failed err)

/-- The critical section of `virp_approval_submit`. -/
def submitLocked (id : Bytes) (a : ApprovalRec) : DProg SubmitResult := do
  let consumed ← approvalHasOutcome cfg id
  if consumed then pure (.failed .approvalConsumed)
  else do
    let probe ← Sys.readFile (.approval id)
    match probe with
    -- someone was first: the approver of record is whoever the file names
    | .ok _ => do
      let file ← Sys.readFile (.approval id)
      pure (match approvalRecordLoad L.parse id file with
        | .ok a => .alreadyExists a
        | .error err => .failed err)
    -- whatever the reason, a record that cannot be opened is taken for none
    | .error _ => recordApproval L cfg a

/-- The record of an approver's signature over a challenge. -/
def approvalOf (ch : Challenge) (ent : Approver) (sig : Signature) : ApprovalRec where
  proposalId := ch.proposalId
  commandHash := ch.commandHash
  device := ch.device
  deviceNodeId := ch.deviceNodeId
  approvedAtNs := ch.approvedAtNs
  ttlSeconds := ch.ttlSeconds
  approverKeyId := ent.keyId
  operator := ent.operator
  sig := sig
  chainEntryHash := .empty 65

/-- `virp_approval_submit` from the lookup of the key on. -/
def submitSigned (ent : Approver) (id : Bytes) (sig : Signature) : DProg SubmitResult := do
  let file ← Sys.readFile (.challenge id)
  match loadChallenge L.parse id file with
  | .error err => pure (.failed err)
  | .ok ch =>
    if approverVerify L.C ent ch.canonical sig = false then pure (.failed .approvalBadSignature)
    else do
      Sys.lockSubmit
      let r ← submitLocked L cfg id (approvalOf ch ent sig)
      Sys.unlockSubmit
      pure r

def virpApprovalSubmit (reg : List Approver) (id keyId : Bytes) (sig : Signature) :
    DProg SubmitResult :=
  if proposalIdValid id = false then pure (.failed .approvalNotFound)
  else do
    let consumed ← approvalHasOutcome cfg id
    if consumed then pure (.failed .approvalConsumed)
    else match approverRegistryFindAny reg keyId with
    | none => pure (.failed .approvalKeyUnenrolled)
    | some ent =>
      if ent.enabled = false then pure (.failed .approvalKeyDisabled)
      else submitSigned L cfg ent id sig

/-- The lines of `consumed.list`. -/
def listLines : Bytes → List Bytes
  | [] => []
  | c :: b =>
    if c = 0x0A then [] :: listLines b
    else match listLines b with
    | [] => [[c]]
    | l :: ls => (c :: l) :: ls

/-- What `fopen` and `fread` leave in the buffer; no list if it cannot be opened. -/
def existingList : Except Errno Bytes → Bytes
  | .ok file => file.take 65535
  | .error _ => []

def consumeOnceLocked (id : Bytes) : DProg (Option VirpError) := do
  let file ← Sys.readFile .consumedList
  let existing := existingList file
  if existing.length = 65535 then pure (some .chainDb)
  else if id ∈ listLines (cstr existing) then pure (some .approvalReused)
  else Sys.writeFile .consumedList (cstr existing ++ id ++ [0x0A])

def virpApprovalCommitConsumeLocked (id : Bytes) : DProg (Option VirpError) :=
  if proposalIdValid id = false then pure (some .approvalNotFound) else consumeOnceLocked id

def virpApprovalCommitConsume (id : Bytes) : DProg (Option VirpError) :=
  if proposalIdValid id = false then pure (some .approvalNotFound)
  else do
    Sys.lockConsume
    let err ← consumeOnceLocked id
    Sys.unlockConsume
    pure err

end Virp
