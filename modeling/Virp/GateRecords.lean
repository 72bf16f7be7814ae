import Virp.ApprovalFlow

/-! # What the gate records on the chain

Four kinds of record.  A `gate_intent` is committed before a command is dispatched,
and refuses the dispatch if it cannot be.  A closer follows once the device has
answered: a `gate_execution` for a command the gate admitted by itself, an `outcome`
for an approved one; both name the intent by its entry hash.  A `gate_rejection` says
what was refused.

Each record is built as a JSON object, printed, hashed, and appended with its body in
one transaction.
-/
namespace Virp

open Threads Decimal

/-! ## Bodies -/

/-- The locals of `onode_execute_legacy` that the records name. -/
structure GateContext where
  device : Bytes
  drv : Driver
  command : Bytes
  tier : Tier
  effMax : Tier
  mode : GateMode
  uid : UInt32
  obsVersion : Int
  wrappingV3 : Bool

/-- A string, or null. -/
def jsonOpt : Option Bytes → Json
  | some s => .string s
  | none => .null

/-- The caller: null for an internal one. -/
def jsonUid (uid : UInt32) : Json := if uid = internalUid then .null else jsonNat uid.toNat

/-- The members a `gate_intent` and a `gate_execution` share, in front. -/
def gateMembers (cfg : OnodeConfig) (g : GateContext) (schema : Bytes) : List (Bytes × Json) :=
  [(text "schema", .string schema), (text "device", .string g.device),
    (text "driver", .string g.drv.name.bytes), (text "command", .string g.command),
    (text "classified_tier", .string (gateTierName g.tier)),
    (text "gate_max_tier", .string (gateTierName cfg.gateMaxTier)),
    (text "effective_max_tier", .string (gateTierName g.effMax)),
    (text "ceiling_source", .string (onodeCeilingSource cfg.uidCeilings g.uid)),
    (text "gate_mode", .string (gateModeName g.mode))]

/-- What an approved apply names: the proposal, and the approval that was verified. -/
structure Approved where
  proposalId : Bytes
  record : ApprovalRec

/-- The approval entry an intent or outcome cites. -/
def Approved.entryHash (a : Approved) : Option Bytes :=
  if a.record.chainEntryHash.bytes = [] then none else some a.record.chainEntryHash.bytes

/-- The body of a `gate_intent`. -/
def intentJson (cfg : OnodeConfig) (g : GateContext) (session : Option Bytes)
    (apr : Option Approved) (proposalEntryHash : Option Bytes) (intentNs : UInt64) : Json :=
  .object (gateMembers cfg g (text "gate_intent/1") ++
    [(text "decision", .string (if apr.isSome then text "approved-apply" else text "auto-execute")),
      (text "uid", jsonUid g.uid), (text "session", jsonOpt session),
      (text "proposal_id", jsonOpt (apr.map (·.proposalId))),
      (text "approval_entry_hash", jsonOpt (apr.bind (·.entryHash))),
      (text "proposal_entry_hash", jsonOpt proposalEntryHash),
      (text "obs_version", .number (.finite (if g.wrappingV3 then 3 else g.obsVersion))),
      (text "intent_ns", jsonNat (doubleOfNat intentNs.toNat))])

def dispositionStr : Disposition → Bytes
  | .unset => text "UNSET"
  | .notSent => text "NOT_SENT"
  | .executedConfirmed => text "EXECUTED_CONFIRMED"
  | .executedFailed => text "EXECUTED_FAILED"
  | .executedUnknown => text "EXECUTED_UNKNOWN"

/-- Neither executed nor proved not to have been. -/
def ExecResult.isUnknown (r : ExecResult) : Bool :=
  r.disposition = .executedUnknown || (r.disposition = .unset && !r.success && !r.noDispatch)

/-- The members that report what the driver returned; nothing, if it failed. -/
def resultMembers (r : Option ExecResult) : List (Bytes × Json) :=
  let unknown := r.all (·.isUnknown)
  [(text "executed", if unknown then .null else .bool (r.all (fun x => !x.noDispatch))),
    (text "executed_reported", .bool (!unknown)),
    (text "success", .bool (r.any (·.success))),
    (text "exit_code", match r with
      | some x => .number (.finite x.exitCode)
      | none => .null),
    (text "exit_code_trusted", .bool (r.any (·.exitCodeTrusted))),
    (text "disposition", .string (match r with
      | some x => dispositionStr x.disposition
      | none => text "DRIVER_ERROR")),
    (text "response_truncated", .bool (r.any (·.outputTruncated)))]

/-- The `error` member: the daemon's own message, else the driver's. -/
def errorMember (failureMsg : Option Bytes) (r : Option ExecResult) : Json :=
  match failureMsg, r with
  | some (c :: msg), _ => .string (c :: msg)
  | _, some x => if x.errorMsg.bytes = [] then .null else .string x.errorMsg.bytes
  | _, none => .null

/-- The user name of the device's own credential. -/
def devicePrincipal (cfg : OnodeConfig) (device : Bytes) : Json :=
  match findDevice cfg.devices device with
  | some d => if d.username.bytes = [] then .null else .string d.username.bytes
  | none => .null

/-- The body of a `gate_execution`. -/
def executionJson (cfg : OnodeConfig) (g : GateContext) (session : Option Bytes)
    (intent : Option Entry) (r : Option ExecResult) (failureMsg : Option Bytes) (digest : Bytes) :
    Json :=
  .object (gateMembers cfg g (text "gate_execution/2") ++
    [(text "decision", .string (text "auto-execute")), (text "body_version", jsonNat 2),
      (text "device_principal", devicePrincipal cfg g.device), (text "uid", jsonUid g.uid),
      (text "session", jsonOpt session),
      (text "intent_entry_hash", jsonOpt (intent.map (·.chainEntryHash.bytes))),
      (text "intent_sequence", match intent with
        | some e => jsonNat (doubleOfNat e.sequence.toNat)
        | none => .null),
      (text "intent_artifact_id", jsonOpt (intent.map (·.artifactId.bytes)))] ++
    resultMembers r ++
    [(text "response_sha256", .string digest),
      (text "response_len", jsonNat ((r.map (·.output.length)).getD 0)),
      (text "error", errorMember failureMsg r)])

/-- The body of an `outcome`, as an object. -/
def outcomeJson (a : Approved) (proposalEntryHash device : Bytes) (success : Bool)
    (intent : Option Entry) : Json :=
  .object [(text "proposal_id", .string a.proposalId),
    (text "proposal_entry_hash", .string proposalEntryHash),
    (text "approval_entry_hash", .string a.record.chainEntryHash.bytes),
    (text "device", .string device), (text "command_hash", .string a.record.commandHash.bytes),
    (text "success", .bool success),
    (text "intent_entry_hash", jsonOpt (intent.map (·.chainEntryHash.bytes)))]

/-- The same body as the daemon writes it, pasted together by hand. -/
def outcomeText (a : Approved) (proposalEntryHash device : Bytes) (success : Bool)
    (intent : Option Entry) : Bytes :=
  snprintfS 1024 (text "\x7b\"proposal_id\":\"" ++ a.proposalId ++
    text "\",\"proposal_entry_hash\":\"" ++ proposalEntryHash ++
    text "\",\"approval_entry_hash\":\"" ++ a.record.chainEntryHash.bytes ++
    text "\",\"device\":\"" ++ device ++
    text "\",\"command_hash\":\"" ++ a.record.commandHash.bytes ++
    text "\",\"success\":" ++ (if success then text "true" else text "false") ++
    text ",\"intent_entry_hash\":" ++ (match intent with
      | some e => 0x22 :: e.chainEntryHash.bytes ++ [0x22]
      | none => text "null") ++ text "\x7d")

/-! ## Appending them -/

variable (L : Libs) (cfg : OnodeConfig)

/-- The session of a device's gate records. -/
def gateEnforceSession (device : Bytes) : Bytes := snprintfS 96 (text "gate-enforce:" ++ device)

/-- An append of a record under an id made of its hash. -/
def recordCall (session type stem hash : Bytes) (body : Option Bytes) : AppendCall where
  sessionId := session
  artifactType := type
  artifactId := snprintfS 64 (stem ++ hash.take 16)
  artifactHash := hash
  artifactContent := body

/-- The append of a `gate_intent`. -/
def intentCall (g : GateContext) (body : Bytes) : AppendCall :=
  recordCall (gateEnforceSession g.device) (text "gate_intent") (text "gateintent-")
    (L.C.sha256Hex (cstr body)) (some body)

/-- The append of a `gate_execution`: without a body it commits to the response. -/
def executionCall (g : GateContext) (digest : Bytes) (body : Option Bytes) : AppendCall :=
  recordCall (gateEnforceSession g.device) (text "gate_execution") (text "gateexec-")
    ((body.map fun b => L.C.sha256Hex (cstr b)).getD digest) body

/-- The append of a `gate_rejection`: without a body it commits to the message. -/
def rejectionCall (session msg : Bytes) (body : Option Bytes) : AppendCall :=
  recordCall session (text "gate_rejection") (text "gatereject-")
    (L.C.sha256Hex (cstr (body.getD msg))) body

/-- The append of the refusal of a replay. -/
def replayCall (device proposalId body : Bytes) (seq : UInt32) : AppendCall where
  sessionId := gateEnforceSession device
  artifactType := text "gate_rejection"
  artifactId := snprintfS 96 (text "replay:" ++ proposalId ++ 0x3A :: unsigned seq.toNat)
  artifactHash := L.C.sha256Hex (cstr body)
  artifactContent := some body

/-- The request is bound to the client's session. -/
def GateContext.sessionBound (g : GateContext) : Bool := g.obsVersion = 2 || g.wrappingV3

/-- `gate_session_hex`, for a request that is bound to the session. -/
def gateSessionHex (g : GateContext) : DProg (Option Bytes) :=
  if g.sessionBound then do
    let s ← Sys.session
    pure s.hex
  else pure none

/-- The chain entry of the proposal, if it can be read and has one. -/
def proposalEntryHash (id : Bytes) : DProg (Option Bytes) :=
  if cfg.approvalDir = false then pure none
  else do
    let prop ← virpApprovalLoadProposal L id
    pure (match prop with
      | .ok p => if p.chainEntryHash.bytes = [] then none else some p.chainEntryHash.bytes
      | .error _ => none)

/-- The `proposal_entry_hash` of an intent: only looked up beside an approval entry. -/
def intentProposalHash (apr : Option Approved) : DProg (Option Bytes) :=
  match apr with
  | some a => if a.entryHash.isSome then proposalEntryHash L cfg a.proposalId else pure none
  | none => pure none

def gateEmitIntent (g : GateContext) (apr : Option Approved) : DProg (Except VirpError Entry) :=
  if cfg.chain.isNone then pure (.error .evidenceUnavailable)
  else do
    let degraded ← Sys.isDegraded
    if degraded then pure (.error .evidenceUnavailable)
    else do
      let session ← gateSessionHex g
      let intentNs ← Sys.now
      let proposalHash ← intentProposalHash L cfg apr
      let object := intentJson cfg g session apr proposalHash intentNs
      let body ← Sys.print object
      match body with
      -- a record that cannot be read back is no evidence
      | none => pure (.error .evidenceUnavailable)
      | some body => Sys.append (intentCall L g body) (some object)

def gateEmitExecution (g : GateContext) (intent : Option Entry) (r : Option ExecResult)
    (failureMsg : Option Bytes) : DProg (Option VirpError) :=
  if cfg.chain.isNone then pure none
  else do
    let digest := L.C.sha256Hex ((r.map (·.output)).getD [])
    let session ← gateSessionHex g
    let object := executionJson cfg g session intent r failureMsg digest
    let body ← Sys.print object
    let res ← Sys.append (executionCall L g digest body) (body.map fun _ => object)
    match res with
    | .ok _ => pure none
    | .error err => do
      if intent.isSome then Sys.markDegraded
      pure (some err)

def approvalEmitOutcome (a : Approved) (device : Bytes) (success : Bool) (intent : Option Entry) :
    DProg (Option VirpError) :=
  if cfg.chain.isNone then pure none
  else do
    let proposalHash ← proposalEntryHash L cfg a.proposalId
    let hash := proposalHash.getD []
    let res ← Sys.append (approvalCall L (text "outcome") a.proposalId device
      (outcomeText a hash device success intent)) (some (outcomeJson a hash device success intent))
    match res with
    | .ok _ => pure none
    | .error err => do
      Sys.markDegraded
      pure (some err)

/-- The body of a `gate_rejection` for an approval that is used up. -/
def replayJson (device proposalId command outcome : Bytes) (recorded : Bool) : Json :=
  .object ([(text "schema", .string (text "gate_rejection/1")),
    (text "reason", .string (text "approval_reused")),
    (text "error_code", .number (.finite VirpError.approvalReused.code)),
    (text "approval_id", .string proposalId), (text "proposal_id", .string proposalId),
    (text "device", .string device), (text "command", .string command),
    (text "executed", .bool false)] ++
    if recorded then [(text "original_outcome_id", .string outcome)]
    else [(text "original_outcome_id", .null),
      (text "outcome_status", .string (text "not_recorded"))])

def replayRefusalRecord (device proposalId command : Bytes) : DProg (Option VirpError) :=
  if cfg.chain.isNone then pure none
  else do
    let outcome := snprintfS 64 (text "outcome:" ++ proposalId)
    let recorded ← Sys.typeExists outcome (text "outcome")
    match recorded with
    | .error err => do
      Sys.markDegraded
      pure (some err)
    | .ok recorded => do
      let object := replayJson device proposalId command outcome recorded
      let body ← Sys.print object
      match body with
      | none => pure (some .bufferTooSmall)
      | some body => do
        let seq ← Sys.nextSeq
        let res ← Sys.append (replayCall L device proposalId body seq) (some object)
        match res with
        | .ok _ => pure none
        | .error err => do
          Sys.markDegraded
          pure (some err)

/-- Append a `gate_rejection`. -/
def emitRejection (session : Bytes) (object : Json) (msg : Bytes) : DProg Unit :=
  if cfg.chain.isNone then pure ()
  else do
    let body ← Sys.print object
    let _ ← Sys.append (rejectionCall L session msg body) (body.map fun _ => object)
    pure ()

/-- The body of a separator refusal. -/
def separatorJson (device command why msg : Bytes) : Json :=
  .object [(text "schema", .string (text "gate_rejection/1")), (text "device", .string device),
    (text "refusal_stage", .string (text "ingress-separator")), (text "command", .string command),
    (text "classified_tier", .string (text "UNCLASSIFIED")),
    (text "refused_sequence", .string why), (text "message", .string msg),
    (text "executed", .bool false)]

def separatorRefuseChain (device command why msg : Bytes) : DProg Unit :=
  emitRejection L cfg (snprintfS 96 (text "gate-separator:" ++ device))
    (separatorJson device command why msg) msg

/-- The body of a tier refusal. -/
def rejectionJson (g : GateContext) (matched : Option Bytes) (msg : Bytes) : Json :=
  .object (gateMembers cfg g (text "gate_rejection/1") ++
    [(text "matched_rule", jsonOpt matched), (text "message", .string msg),
      (text "executed", .bool false)])

/-! ## Observations that answer for a refusal -/

/-- What an execute request is answered with. -/
abbrev Reply := Except VirpError Observation

/-- Build an observation under the O-Key. -/
def buildObs (obs : Observation) : DProg Reply := do
  let _ ← Sys.nextSeq
  let err ← Sys.buildObservation obs
  pure (match err with
    | some err => .error err
    | none => .ok obs)

/-- A signed ERROR observation. -/
def errorObs (nodeId : UInt32) (tier : Tier) (msg : Bytes) : DProg Reply :=
  buildObs ⟨nodeId, .error, gateObsTier tier, msg⟩

def approvalProposerId (g : GateContext) : DProg Bytes :=
  if g.sessionBound then do
    let s ← Sys.session
    pure (if s.isActive then text "session:" ++ hexEncode (s.sessionId.take 8)
      else text "unauthenticated-v1")
  else pure (text "unauthenticated-v1")

/-- The message of a tier refusal, with the classifier's reason. -/
def blockedMsg (g : GateContext) (reason : Option Bytes) : Bytes :=
  let msg := snprintfS 448 (text "ERROR: tier gate blocked '" ++ g.command ++ text "' on '" ++
    g.device ++ text "' (tier=" ++ gateTierName g.tier ++ text " max=" ++ gateTierName g.effMax ++
    text ")")
  match reason with
  | some why => snprintfS 448 (msg ++ text " reason: " ++ why)
  | none => msg

/-- File a proposal for the refused command, and name it in the message. -/
def offerProposal (dev : Device) (g : GateContext) (msg : Bytes) : DProg Bytes :=
  if cfg.approvalDir = false ∨ g.tier = .black then pure msg
  else do
    let proposer ← approvalProposerId g
    let prop ← virpApprovalPropose L cfg dev g.command g.drv.typedProfile proposer
      (gateTierName g.tier)
    pure (match prop with
      | .ok p => snprintfS 448 (msg ++ text " proposal_id=" ++ p.proposalId.bytes)
      | .error _ => msg)

def gateRefuseObs (dev : Device) (g : GateContext) : DProg Reply := do
  let reason := g.drv.routeReason.bind (· g.command)
  let msg ← offerProposal L cfg dev g (blockedMsg g reason)
  emitRejection L cfg (gateEnforceSession g.device) (rejectionJson cfg g reason msg) msg
  errorObs dev.nodeId g.tier msg

def gateRefuseEvidenceObs (dev : Device) (g : GateContext) (why : VirpError) : DProg Reply :=
  let cause := if cfg.chain.isSome then why.str else text "no trust chain configured"
  errorObs dev.nodeId g.tier (snprintfS 512 (text "ERROR: evidence-unavailable: refused '" ++
    g.command ++ text "' on '" ++ g.device ++ text "' (tier=" ++ gateTierName g.tier ++
    text "): pre-execution record could not be made durable (" ++ cause ++
    text "); nothing was dispatched"))

/-- The message of `gate_unchained_execution_obs`. -/
def unchainedMsg (g : GateContext) (intent : Entry) (apr : Option Approved) (cause : VirpError) :
    Bytes :=
  snprintfS 768 (match apr with
    | some a => text "ERROR: unchained-execution: '" ++ g.command ++ text "' was applied on '" ++
        g.device ++ text "' under approval " ++ a.proposalId ++ text " (approval entry " ++
        ((a.entryHash).getD (text "(none)")).take 16 ++
        text ") but its outcome could not be committed to the chain (" ++ cause.str ++
        text "); intent " ++ intent.chainEntryHash.bytes.take 16 ++
        text " is OPEN and must be reconciled against the target; whether the device changed cannot be determined from this response; the approval is consumed and will not be retried; the daemon is now refusing further executions (evidence-degraded) until restart"
    | none => text "ERROR: unchained-execution: '" ++ g.command ++ text "' executed on '" ++
        g.device ++ text "' but its outcome could not be committed to the chain (" ++ cause.str ++
        text "); intent " ++ intent.chainEntryHash.bytes.take 16 ++
        text " is OPEN and must be reconciled against the target; the daemon is now refusing further executions (evidence-degraded) until restart")

def gateUnchainedExecutionObs (dev : Device) (g : GateContext) (intent : Entry)
    (apr : Option Approved) (cause : VirpError) : DProg Reply :=
  errorObs dev.nodeId g.tier (unchainedMsg g intent apr cause)

end Virp
