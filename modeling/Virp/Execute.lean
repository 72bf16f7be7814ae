import Virp.GateRecords

/-! # Executing a command

`onode_execute_legacy` and what it calls, down to the driver.  The request passes the
separator check, the gate, the policy's limits and the approval store; then the connection is
made, the intent committed and the approval consumed; then the driver is called, at
most twice; then the closer is written.  Every stage is a program of its own here,
and ends in the next one or in a refusal.
-/
namespace Virp

open Threads Decimal

variable (L : Libs) (cfg : OnodeConfig)

/-! ## After the driver has answered -/

/-- The closer of an intent could not be committed although evidence is required. -/
def unchained (intent : Option Entry) (err : Option VirpError) : Option (Entry × VirpError) :=
  if cfg.evidenceRequired then
    match intent, err with
    | some e, some err => some (e, err)
    | _, _ => none
  else none

variable (dev : Device) (g : GateContext) (apr : Option Approved)

/-- Close with a failure: the closer first, then an ERROR observation. -/
def closeWithError (intent : Option Entry) (result : Option ExecResult) (msg : Bytes) :
    DProg Reply :=
  match apr with
  | none => do
    let _ ← gateEmitExecution L cfg g intent result (some msg)
    errorObs dev.nodeId g.tier msg
  | some a => do
    let err ← approvalEmitOutcome L cfg a g.device false intent
    match unchained cfg intent err with
    | some (e, err) => gateUnchainedExecutionObs dev g e (some a) err
    | none => errorObs dev.nodeId g.tier msg

variable (r : ExecResult)

/-- The observation of a command that was executed. -/
def buildOutput : DProg Reply :=
  let obs : Observation := ⟨dev.nodeId, .deviceOutput, gateObsTier g.tier, r.output⟩
  if g.obsVersion = 2 then do
    let err ← Sys.buildSessionObservation none r.output
    pure (match err with
      | some err => .error err
      | none => .ok obs)
  else buildObs obs

/-- Close with the device's output.  An outcome is appended after the observation is
built, a `gate_execution` before. -/
def closeWithOutput (intent : Option Entry) (r : ExecResult) : DProg Reply :=
  match apr with
  | none => do
    let err ← gateEmitExecution L cfg g intent (some r) none
    match unchained cfg intent err with
    | some (e, err) => gateUnchainedExecutionObs dev g e none err
    | none => buildOutput dev g r
  | some a => do
    let reply ← buildOutput dev g r
    let err ← approvalEmitOutcome L cfg a g.device r.success intent
    match unchained cfg intent err with
    | some (e, err) => gateUnchainedExecutionObs dev g e (some a) err
    | none => pure reply

/-- How much output fits the answer. -/
def captureLimit : Nat :=
  if g.wrappingV3 then 65536 - 184 - 12 else if g.obsVersion = 2 then 65536 - 88 - 32 else 65475

/-- Cut the output to the limit. -/
def capture : ExecResult :=
  if captureLimit g < r.output.length then
    { r with output := r.output.take (captureLimit g), outputTruncated := true }
  else r

/-- The body filter and the scrubber, between capture and every use. -/
def scrubResult : ExecResult :=
  { r with
    output := L.scrub (L.filterBody g.drv.name.bytes g.command r.output)
    errorMsg := .copy 256 (L.scrub r.errorMsg.bytes) }

/-- The message of an unknown outcome. -/
def unknownMsg : Bytes :=
  snprintfS 416 (text "ERROR: outcome UNKNOWN on '" ++ g.device ++ text "': " ++
    (if r.errorMsg.bytes = [] then VirpError.outcomeUnknown.str else r.errorMsg.bytes) ++
    text " — uncertain result after possible dispatch; not retried (command may have executed)")

/-- The message of a refusal by the driver. -/
def refusedMsg : Bytes :=
  snprintfS 352 (text "ERROR: driver refused '" ++ g.device ++ text "': " ++ r.errorMsg.bytes)

/-- The driver says that it refused the command. -/
def ExecResult.refused : Bool :=
  !r.success && decide (r.errorMsg.bytes ≠ []) &&
    (r.noDispatch || decide (r.disposition = .notSent) || decide (r.output = []))

/-- From the driver's last result to the answer. -/
def settle (intent : Option Entry) (result : ExecResult) : DProg Reply :=
  let r := scrubResult L g result
  if r.isUnknown then do
    Sys.drop g.device
    closeWithError L cfg dev g apr intent (some { r with disposition := .executedUnknown })
      (unknownMsg g r)
  else if r.refused then closeWithError L cfg dev g apr intent (some r) (refusedMsg g r)
  else closeWithOutput L cfg dev g apr intent (capture g r)

/-- The driver call of a request. -/
def driverCall : Dispatch :=
  ⟨g.device, g.command, apr.map (·.proposalId)⟩

/-- The driver said whether the command was dispatched. -/
def DriverReturn.known (r : DriverReturn) : Bool :=
  r.err.isNone && (r.result.noDispatch || decide (r.result.disposition ∈
    [Disposition.notSent, .executedConfirmed, .executedFailed]))

/-- The message of a driver call that failed. -/
def driverFailedMsg (retry : Bool) (err : VirpError) : Bytes :=
  snprintfS 256 (text "ERROR: driver execute failed on '" ++ g.device ++
    (if retry then text "' (retry): " else text "': ") ++ err.str)

/-- The driver failed, or returned a result to settle. -/
def afterExecute (intent : Option Entry) (retry : Bool) (r : DriverReturn) : DProg Reply :=
  match r.failure with
  | some err => do
    Sys.drop g.device
    closeWithError L cfg dev g apr intent none (driverFailedMsg g retry err)
  | none => settle L cfg dev g apr intent r.result

/-- Retry once, on a fresh connection, and only with proof that nothing was
dispatched. -/
def shouldRetry (policed : Bool) (r : DriverReturn) : Bool :=
  !policed && r.failure.isNone && !r.result.success && r.result.noDispatch

/-- Call the driver and answer.  The flag says whether the dispatch is settled. -/
def dispatch (intent : Option Entry) (policed : Bool) : DProg (Reply × Bool) := do
  let r ← Sys.execute (driverCall g apr)
  if shouldRetry policed r then do
    Sys.drop g.device
    let again ← Sys.connect g.device
    if again then do
      let r' ← Sys.execute (driverCall g apr)
      let reply ← afterExecute L cfg dev g apr intent true r'
      pure (reply, r.known)
    else do
      let reply ← settle L cfg dev g apr intent r.result
      pure (reply, r.known)
  else do
    let reply ← afterExecute L cfg dev g apr intent false r
    pure (reply, r.known)

/-- What came of consuming an approval. -/
inductive Consumption where
  | expired
  | reused
  | unrecorded (err : VirpError)
  | committed (intent : Entry)

/-- The replay guard: an intent on the chain already cites the approval.  A query that
fails counts as yes. -/
def replayGuard (a : Approved) : DProg Bool :=
  if a.record.chainEntryHash.bytes = [] then pure false
  else do
    let prior ← Sys.countIntents a.record.chainEntryHash
    pure (match prior with
      | .ok n => decide (0 < n)
      | .error _ => true)

/-- What happens under the consume lock: the lifetime once more, the guard, the intent,
and `consumed.list`, whose failure is only logged. -/
def consumeApproval (a : Approved) : DProg Consumption := do
  let now ← Sys.now
  if a.record.expiry < now then pure .expired
  else do
    let reused ← replayGuard a
    if reused then pure .reused
    else do
      let r ← gateEmitIntent L cfg g (some a)
      match r with
      | .error err => pure (.unrecorded err)
      | .ok e => do
        let _ ← virpApprovalCommitConsumeLocked a.proposalId
        pure (.committed e)

/-- The message of an apply that was refused. -/
def applyRejectedMsg (cap : Nat) (err : VirpError) (g : GateContext) (id tail : Bytes) : Bytes :=
  snprintfS cap (text "ERROR: apply rejected (" ++ err.approvalErrName ++ text ", err=" ++
    signed err.code ++ text ") for proposal " ++ id ++ text " on '" ++ g.device ++ text "'" ++ tail)

/-- ` (tier=...)`, at the end of such a message. -/
def tierNote : Bytes := text " (tier=" ++ gateTierName g.tier ++ text ")"

/-- Refuse an apply: record it if it is a replay, then answer. -/
def refuseApply (id : Bytes) (err : VirpError) (msg : Bytes) : DProg Reply :=
  if err = .approvalReused then do
    let rec ← replayRefusalRecord L cfg g.device id g.command
    match rec with
    | some err => pure (.error err)
    | none => errorObs dev.nodeId g.tier msg
  else errorObs dev.nodeId g.tier msg

/-- What has to happen before the driver may be called: a refusal, or the intent if
evidence is required. -/
def recordIntent : DProg (Except Reply (Option Entry)) :=
  match cfg.evidenceRequired, apr with
  | true, some a => do
    Sys.lockConsume
    let c ← consumeApproval L cfg g a
    Sys.unlockConsume
    match c with
    | .committed e => pure (.ok (some e))
    | .expired => do
      let reply ← refuseApply L cfg dev g a.proposalId .approvalExpired
        (applyRejectedMsg 416 .approvalExpired g a.proposalId
          (text ": approval expired during connect" ++ tierNote g))
      pure (.error reply)
    | .reused => do
      let reply ← refuseApply L cfg dev g a.proposalId .approvalReused
        (applyRejectedMsg 416 .approvalReused g a.proposalId
          (text ": approval already consumed by a committed intent" ++ tierNote g))
      pure (.error reply)
    | .unrecorded err => do
      let reply ← gateRefuseEvidenceObs cfg dev g err
      pure (.error reply)
  | true, none => do
    let r ← gateEmitIntent L cfg g none
    match r with
    | .ok e => pure (.ok (some e))
    | .error err => do
      let reply ← gateRefuseEvidenceObs cfg dev g err
      pure (.error reply)
  | false, some a => do
    let err ← virpApprovalCommitConsume a.proposalId
    match err with
    | none => pure (.ok none)
    | some err => do
      let reply ← refuseApply L cfg dev g a.proposalId err
        (applyRejectedMsg 384 err g a.proposalId (text ": approval consume failed"))
      pure (.error reply)
  | false, none => pure (.ok none)

/-! ## From the gate to the device -/

/-- The answer to a request, with the policy's ticket and whether its dispatch is
settled. -/
structure Finished where
  reply : Reply
  ticket : Option Nat
  known : Bool

/-- A connection is there; an approved command is only sent over a live one. -/
def afterConnect (ticket : Option Nat) :
    DProg Finished := do
  let r ← recordIntent L cfg dev g apr
  match r with
  | .error reply => pure ⟨reply, ticket, true⟩
  | .ok intent => do
    let (reply, known) ← dispatch L cfg dev g apr intent ticket.isSome
    pure ⟨reply, ticket, known⟩

/-- The liveness probe of an approved apply. -/
def checkLive : DProg (Option VirpError) :=
  if apr.isSome ∧ g.drv.healthCheck = true then Sys.healthCheck g.device else pure none

/-- Connect, and probe the connection before an approval is spent. -/
def connectAndRun (ticket : Option Nat) :
    DProg Finished := do
  let connected ← Sys.connect g.device
  if connected = false then do
    let reply ← errorObs dev.nodeId g.tier
      (snprintfS 256 (text "ERROR: cannot connect to '" ++ g.device ++ text "'"))
    pure ⟨reply, ticket, true⟩
  else do
    let dead ← checkLive g apr
    match dead with
    | none => afterConnect L cfg dev g apr ticket
    | some err => do
      Sys.drop g.device
      let reply ← errorObs dev.nodeId g.tier (snprintfS 384 (text "ERROR: apply refused for proposal " ++
        ((apr.map (·.proposalId)).getD []) ++ text " on '" ++ g.device ++
        text "': the device session is not live (" ++ err.str ++
        text "). Nothing was dispatched and the approval was NOT consumed — re-apply once the device is reachable."))
      pure ⟨reply, ticket, true⟩

/-- The command is admitted: reserve it with the policy, if there is one. -/
def admitted (call : Option (Policy × PolicyAction)) : DProg Finished :=
  match call with
  | none => connectAndRun L cfg dev g apr none
  | some (p, action) => do
    let r ← Sys.reserve p action
    match r with
    | .ok ticket => connectAndRun L cfg dev g apr (some ticket)
    | .error _ => do
      let reply ← gateRefuseObs L cfg dev { g with tier := .black, mode := .enforce }
      pure ⟨reply, none, false⟩

/-- `virp_approval_verify`, by the daemon. -/
def verifyApproval (id : Bytes) : DProg (Except VirpError ApprovalRec) :=
  match cfg.approvalDir, cfg.approvers with
  | true, some reg =>
    if proposalIdValid id = false then pure (.error .approvalNotFound)
    else do
      let file ← Sys.readFile (.approval id)
      let now ← Sys.now
      pure (virpApprovalVerify L.C L.parse reg id
        ⟨g.device, dev.nodeId, g.command, g.drv.typedProfile⟩ now file)
  | _, _ => pure (.error .keyNotLoaded)

/-- An apply: a blocked command with a reference to an approval. -/
def applyApproval (id : Bytes) (call : Option (Policy × PolicyAction)) : DProg Finished := do
  let r ← verifyApproval L cfg dev g id
  match r with
  | .ok a => admitted L cfg dev g (some ⟨id, a⟩) call
  | .error err => do
    let reply ← refuseApply L cfg dev g id err (applyRejectedMsg 384 err g id
      (text " (tier=" ++ gateTierName g.tier ++ text " max=" ++ gateTierName g.effMax ++ text ")"))
    pure ⟨reply, none, false⟩

/-- The gate.  BLACK is refused in every mode; SHADOW lets the rest pass. -/
def gateDecide (id : Bytes) (call : Option (Policy × PolicyAction)) : DProg Finished :=
  if g.tier = .black then do
    let reply ← gateRefuseObs L cfg dev g
    pure ⟨reply, none, false⟩
  else if g.mode = .enforce ∧ gateTierBlocks g.tier g.effMax = true then
    if id ≠ [] then applyApproval L cfg dev g id call
    else do
      let reply ← gateRefuseObs L cfg dev g
      pure ⟨reply, none, false⟩
  else admitted L cfg dev g none call

/-- The tier a policy's effect stands for. -/
def Effect.tier : Effect → Tier
  | .read => .green
  | .change => .yellow
  | .disruptive => .red

/-- The gate's view of a request: with a policy its own catalogue classifies, and the
mode is ENFORCE. -/
def gateContext (drv : Driver) (req : Request) (command : Bytes) (wrappingV3 : Bool)
    (call : Option (Policy × PolicyAction)) : GateContext where
  device := req.device.bytes
  drv := drv
  command := command
  tier := match call with
    | some (_, action) => action.effect.tier
    | none => gateClassify drv command
  effMax := match call with
    | some (_, action) => action.ceiling
    | none => onodeEffectiveMaxTier cfg.gateMaxTier cfg.uidCeilings req.uid
  mode := match call with
    | some _ => .enforce
    | none => gateEffectiveMode cfg.gateOverrides cfg.gateDefaultMode drv.name.bytes
  uid := req.uid
  obsVersion := if wrappingV3 then 1 else req.obsVersion
  wrappingV3 := wrappingV3

/-- A request refused before the gate. -/
def refuseEarly (nodeId : UInt32) (msg : Bytes) : DProg Finished := do
  let reply ← errorObs nodeId .unclassified (snprintfS 256 msg)
  pure ⟨reply, none, false⟩

variable (req : Request) (command : Bytes) (wrappingV3 : Bool)

/-- Find the device and its driver, then ask the gate. -/
def routeRequest (call : Option (Policy × PolicyAction)) : DProg Finished :=
  match findDevice cfg.devices req.device.bytes with
  | none => refuseEarly cfg.nodeId (text "ERROR: device '" ++ req.device.bytes ++ text "' not found")
  | some dev =>
    match cfg.drivers dev.vendor with
    | none => refuseEarly dev.nodeId (text "ERROR: no driver for '" ++ req.device.bytes ++ text "'")
    | some drv => gateDecide L cfg dev (gateContext cfg drv req command wrappingV3 call)
        req.proposalId.bytes call

/-- A request that asks for a session-bound answer needs a live session and a command
that can be hashed, before anything is done. -/
def sessionRefusal : DProg (Option VirpError) :=
  if wrappingV3 = false ∧ req.obsVersion = 2 then do
    let s ← Sys.session
    pure (if s.ready = false then some .sessionInvalid
      else if (canonicalizeCommand 512 command).isNone then some .invalidLength else none)
  else pure none

def onodeExecuteLegacy (call : Option (Policy × PolicyAction)) : DProg Finished :=
  match commandCheckSeparators command with
  | some why => do
    let msg := snprintfS 256 (text "ERROR: multi-command / illegal separator rejected for '" ++
      req.device.bytes ++ text "': " ++ why)
    separatorRefuseChain L cfg req.device.bytes command why msg
    refuseEarly cfg.nodeId msg
  | none => do
    let refusal ← sessionRefusal req command wrappingV3
    match refusal with
    | some err => pure ⟨.error err, none, false⟩
    | none => routeRequest L cfg req command wrappingV3 call

/-- A client's request for a command, one thread each; a batch is one execute request per item. -/
inductive ClientRequest where
  | execute (req : Request)
  | apply (id : Field 33) (obsVersion : Int) (uid : UInt32)

end Virp
