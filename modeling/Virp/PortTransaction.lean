import Mathlib.Data.Rat.Defs
import Mathlib.Algebra.Order.Ring.Rat
import Virp.Library.Machine
import Virp.Library.Rows
import Virp.Python

/-! # Port transactions

A port transaction changes one setting of a switch port and takes it back.  An
independent approver signs the bundle and starts its lease; each verb (preflight, apply,
verify, restore, verify_restored, reconcile) is begun, natively approved, dispatched and
finished; every event has to be chained, and its receipt stored, before the next verb.  The
store is one SQLite database, and each method one transaction on it, after one that notices the
end of the lease.

Every method takes the readings it makes of the two clocks and the uuids it draws.  The
boot clock's floats are rationals here.
-/
namespace Virp

/-! ## What is approved -/

structure PortTarget where
  device : PyStr
  host : PyStr
  port : PyStr
  deviceNodeId : Int
  transportPort : Int
deriving DecidableEq

/-- `TARGETS`. -/
def portTargets : List PortTarget :=
  [⟨"kestrel-ios".toList, "192.168.255.10".toList, "Ethernet0/1".toList, 260, 22⟩,
   ⟨"SW-3850".toList, "10.0.10.2".toList, "GigabitEthernet1/0/22".toList, 0x0a000a02, 2223⟩]

/-- A plan: what `port_plan.plan` renders of a baseline. -/
structure PortPlan where
  schema : PyStr
  port : PyStr
  operation : PyStr
  tier : PyStr
  before : List PyStr
  expected : List PyStr
  preConfigSha256 : PyStr
  forward : PyStr
  rollback : PyStr
  save : Bool
  bundleSha256 : PyStr
deriving DecidableEq

/-- A native proposal of the inventory. -/
structure ProposalRef where
  proposalId : PyStr
  artifactHash : PyStr
  chainEntryHash : PyStr
deriving DecidableEq

structure NativeInventory where
  forward : ProposalRef
  restore : ProposalRef
  preflight : ProposalRef
  verify : List ProposalRef
deriving DecidableEq

def NativeInventory.refs (i : NativeInventory) : List ProposalRef :=
  [i.forward, i.restore, i.preflight] ++ i.verify

/-- `_inventory_ids`. -/
def NativeInventory.ids (i : NativeInventory) : List PyStr := i.refs.map (·.proposalId)

structure PortBundle where
  target : PortTarget
  plan : PortPlan
  verification : List PyStr
  preconditionHashes : List PyStr
  nativeProposals : NativeInventory
deriving DecidableEq

/-- What the approver signs. -/
structure PortApproval where
  schema : PyStr
  approvalId : PyStr
  transactionId : PyStr
  planSha256 : PyStr
  owner : PyStr
  issuedNs : Int
  leaseSeconds : Int
  bootId : PyStr
  issuedBoottime : ℚ
  method : PyStr
  reference : PyStr
  approvedNs : Int
deriving DecidableEq

/-- A challenge of the native gate. -/
structure NativeChallenge where
  proposalId : Option PyStr
  command : Option PyStr
  canonical : PyStr
  ttlSeconds : Int
  deviceNodeId : Int
deriving DecidableEq

/-- What the store rests on: the digests of canonical JSON, the renderer of plans, the
check of a native challenge, and Ed25519 over the canonical approval. -/
structure PortChecks where
  digest : PortBundle → PyStr
  planDigest : PortPlan → PyStr
  render : (baseline port operation : PyStr) → Option PortPlan
  validateChallenge : NativeChallenge → (device command : PyStr) → (nodeId nowNs : Int) →
    (tier : PyStr) → Option Bytes
  verify : (key signature : Bytes) → PortApproval → Bool

/-- The settings a `Transactions` object is made with. -/
structure PortOwner where
  key : Bytes
  owner : PyStr
  bootId : PyStr
  maxLeaseSeconds : Int
  requiredApprovalMethod : PyStr

variable (K : PortChecks)

/-- `validate_target_plan`, of a target that is pinned. -/
def validateTargetPlan (target : PortTarget) (p : PortPlan) : Bool :=
  decide (target ∈ portTargets) && p.port == target.port && !p.save &&
    K.planDigest p == p.bundleSha256 &&
    match K.render ("interface ".toList ++ target.port ++ ['\n'] ++ ['\n'].intercalate p.before ++
        "\nend".toList) target.port p.operation with
    | none => false
    | some q =>
      p.forward == q.forward && p.rollback == q.rollback && p.before == q.before &&
        p.expected == q.expected && p.tier == q.tier && p.schema == q.schema &&
        p.operation == q.operation && isHexOf 64 p.preConfigSha256

def ProposalRef.wellFormed (r : ProposalRef) : Bool :=
  isHexOf 32 r.proposalId && isHexOf 64 r.artifactHash && isHexOf 64 r.chainEntryHash

/-- `'show running-config interface ' + port`. -/
def showRunning (port : PyStr) : PyStr := "show running-config interface ".toList ++ port

def validateBundle (b : PortBundle) : Bool :=
  let refs := b.nativeProposals.refs
  validateTargetPlan K b.target b.plan &&
    b.verification == ["show interfaces ".toList ++ b.target.port ++ " switchport".toList,
      showRunning b.target.port] &&
    2 ≤ b.nativeProposals.verify.length && b.nativeProposals.verify.length ≤ 8 &&
    refs.all (·.wellFormed) && decide ((refs.map (·.proposalId)).Nodup) &&
    decide ((refs.map (·.artifactHash)).Nodup) && decide ((refs.map (·.chainEntryHash)).Nodup) &&
    b.preconditionHashes ≠ [] && b.preconditionHashes.all (isHexOf 64)

/-! ## The store -/

inductive PortState where
  | prepared | approved | preflighting | preflightVerified | applying | applied
  | verifying | verified | verifyFailed | restoring | restoreApplied | verifyingRestore
  | unknown | reconciling | restored | expiredBeforeApply | preflightRefused
deriving DecidableEq, Repr

/-- The states nothing leaves. -/
def PortState.closed : PortState → Bool
  | .restored | .expiredBeforeApply | .preflightRefused => true
  | _ => false

inductive PortVerb where
  | preflight | apply | verify | restore | verifyRestored | reconcile
deriving DecidableEq, Repr

inductive CloseReason where
  | leaseExpired | expiredBeforeApply | preflightMismatch | preflightUnproven
  | roundtripComplete | reconciledToBaseline
deriving DecidableEq, Repr

inductive PortOutcome where
  | executed | isMatch | mismatch | matchesForward | matchesBefore | unknown | other
deriving DecidableEq, Repr

inductive InterruptionReason where
  | transportLost | workerLost | signerIndeterminate | other
deriving DecidableEq, Repr

/-- What `approve` stores with a transaction. -/
structure PortLease where
  approval : PortApproval
  signature : Bytes
  expiresNs : Int
  deadline : ℚ
deriving DecidableEq

/-- A row of `transactions`. -/
structure PortRow where
  body : PortBundle
  hash : PyStr
  state : PortState
  boot : PyStr
  lease : Option PortLease
  /-- `preflight_wall_ns` and `preflight_boot` -/
  preflight : Option (Int × ℚ)
  expired : Bool
  closeReason : Option CloseReason
deriving DecidableEq

/-- A row of `requests`. -/
structure RequestRow where
  transactionId : PyStr
  verb : PortVerb
  dispatched : Bool
  finished : Bool
deriving DecidableEq

/-- A row of `native_issuances`, whose key is the proposal's id. -/
structure IssuanceRow where
  requestId : PyStr
  command : PyStr
  challenge : NativeChallenge
  issued : Bool
deriving DecidableEq

structure PortEvidence where
  artifactId : PyStr
  artifactHash : PyStr
  chainEntryHash : PyStr
deriving DecidableEq

/-- What an event tells, besides its time. -/
inductive PortEvent where
  | proposal (planSha256 : PyStr) (bundle : PortBundle)
  | ownerAuthorizationIntent (leaseSeconds : Int) (planSha256 : PyStr)
  | approval (a : PortApproval) (signature : Bytes)
  | leaseExpired (approvalId : PyStr) (state : PortState)
  | close (reason : CloseReason)
  | intent (verb : PortVerb) (requestId approvalId planSha256 : PyStr)
  | nativeApprovalIntent (requestId proposalId command canonical approvalId : PyStr)
  | nativeSignatureIssuance (requestId proposalId : PyStr)
  | helperInterruption (requestId : PyStr) (reason : InterruptionReason) (dispatchReserved : Bool)
  | outcome (verb : PortVerb) (requestId : PyStr) (outcome : PortOutcome) (observationHash : PyStr)
      (evidence : Option PortEvidence) (ignoredForApply : Bool)
deriving DecidableEq

structure PortReceipt where
  chainEntryHash : PyStr
  artifactId : PyStr
deriving DecidableEq

/-- A row of `events`. -/
structure EventRow where
  eventId : PyStr
  transactionId : PyStr
  event : PortEvent
  timeNs : Int
  receipt : Option PortReceipt
deriving DecidableEq

structure PortStore where
  transactions : Rows PyStr PortRow
  /-- approval and transaction -/
  approvals : List (PyStr × PyStr)
  /-- lease and start -/
  ownerAttempts : Rows PyStr (Int × Int)
  requests : Rows PyStr RequestRow
  issuances : Rows PyStr IssuanceRow
  /-- in the order of `seq` -/
  events : List EventRow

def PortStore.empty : PortStore := ⟨.empty, [], .empty, .empty, .empty, []⟩

/-! ## The methods -/

/-- Why a method raises: the reasons of `Refused`, the error of the challenge's check, and
`sqlite3.IntegrityError` where it is not caught. -/
inductive PortRefusal where
  | invalidTransactionBundle | priorTransactionBundleTampered | targetTransactionOpen
  | priorTransactionReceiptRequired | nativeInventoryPreviouslyBound | unknownTransaction
  | approvedBundleTampered | bootChangedReconciliationRequired | approvalBindingChanged
  | storedApprovalContextChanged | approvedDeadlineTampered | storedApprovalInvalid
  | invalidLease | approvalAlreadyProcessed | chainReceiptRequired
  | ownerAuthorizationAlreadyStarted | invalidApproval | approvalLeaseAlreadyExpired
  | approvalReusedOrWrongBundle | approvalReused | verbNotAllowedInTransactionState
  | preflightStale | leaseExpired | invalidRequest | requestReusedOrMismatched
  | dispatchAlreadyConsumed | nativeCommandOutsideApprovedPlan
  | nativeProposalNotInApprovedInventory | nativeApprovalAlreadyReserved
  | nativeApprovalUnknownOrReused | nativeProposalBindingChanged | nativeApprovalIssuanceRequired
  | invalidInterruptionReason | transactionAlreadyClosed | missingObservation
  | invalidComparisonEvidence | requestNotDispatched | invalidOutcome | invalidLedgerReceipt
  | nativeChallengeBindingInvalid | integrityError | noApproval
deriving DecidableEq, Repr

abbrev PortResult := Except PortRefusal

/-- `if c: raise Refused(e)`. -/
def refuseIf (c : Bool) (e : PortRefusal) : PortResult Unit := if c then .error e else .ok ()

/-- The value, or a refusal. -/
def orRefuse {α : Type} (x : Option α) (e : PortRefusal) : PortResult α :=
  match x with
  | some a => .ok a
  | none => .error e

/-- What a call reads of the clocks and draws at random.  Each comparison of the code has
readings of its own. -/
structure PortReadings where
  /-- the end of the lease, in `_refresh` -/
  refreshWall : Int
  refreshBoot : ℚ
  /-- `_fresh_preflight` -/
  freshWall : Int
  freshBoot : ℚ
  /-- the end of the lease, in the call itself -/
  leaseWall : Int
  leaseBoot : ℚ
  /-- any other -/
  wall : Int
  boot : ℚ
  eventNs : Nat → Int
  eventId : Nat → PyStr
  /-- the id of what is made -/
  uuid : PyStr

variable (s : PortStore)

/-- `_event`: the `n`-th of the call. -/
def addEvent (R : PortReadings) (n : Nat) (tid : PyStr) (e : PortEvent) :
    PortResult PortStore := do
  refuseIf (s.events.any (·.eventId == R.eventId n)) .integrityError
  return { s with events := s.events ++ [⟨R.eventId n, tid, e, R.eventNs n, none⟩] }

variable (tid : PyStr)

/-- Some event of the transaction has no receipt. -/
def PortStore.unreceipted : Bool :=
  s.events.any (fun e => e.transactionId == tid && e.receipt.isNone)

variable (O : PortOwner)

/-- The stored approval is what was approved, under the present settings. -/
def checkLease (tid : PyStr) (row : PortRow) (l : PortLease) : PortResult Unit := do
  let a := l.approval
  refuseIf (a.planSha256 != row.hash || a.transactionId != tid) .approvalBindingChanged
  refuseIf (a.owner != O.owner || a.bootId != O.bootId || a.method != O.requiredApprovalMethod)
    .storedApprovalContextChanged
  refuseIf (l.expiresNs != a.issuedNs + a.leaseSeconds * 1000000000 ||
    l.deadline != a.issuedBoottime + a.leaseSeconds) .approvedDeadlineTampered
  refuseIf (!K.verify O.key l.signature a) .storedApprovalInvalid

/-- `_get`. -/
def getTransaction (s : PortStore) (tid : PyStr) : PortResult PortRow := do
  let row ← orRefuse (s.transactions.get tid) .unknownTransaction
  refuseIf (K.digest row.body != row.hash) .approvedBundleTampered
  refuseIf (row.boot != O.bootId) .bootChangedReconciliationRequired
  match row.lease with
  | none => return row
  | some l => do
    checkLease K O tid row l
    return row

/-- A previous transaction does not stand in the way of one on the target. -/
def assertRowAvailable (target : PortTarget) (p : PyStr × PortRow) :
    PortResult Unit := do
  refuseIf (K.digest p.2.body != p.2.hash) .priorTransactionBundleTampered
  refuseIf (p.2.body.target == target && !p.2.state.closed) .targetTransactionOpen
  refuseIf (p.2.body.target == target && s.unreceipted p.1) .priorTransactionReceiptRequired

/-- `assert_target_available`, of a target already checked. -/
def assertTargetAvailable (target : PortTarget) : PortResult Unit :=
  s.transactions.all.forM (assertRowAvailable K s target)

/-- `create`. -/
def createTransaction (s : PortStore) (body : PortBundle) (R : PortReadings) :
    PortResult (PortStore × PyStr) := do
  refuseIf (!validateBundle K body) .invalidTransactionBundle
  assertTargetAvailable K s body.target
  refuseIf (s.transactions.all.any (fun p =>
    p.2.body.nativeProposals.ids.any (fun id => decide (id ∈ body.nativeProposals.ids))))
    .nativeInventoryPreviouslyBound
  let transactions ← orRefuse (s.transactions.insert R.uuid
    ⟨body, K.digest body, .prepared, O.bootId, none, none, false, none⟩) .integrityError
  let s ← addEvent { s with transactions } R 2 R.uuid (.proposal (K.digest body) body)
  return (s, R.uuid)

def beginAuthorization (s : PortStore) (tid : PyStr) (seconds : Int) (R : PortReadings) :
    PortResult PortStore := do
  refuseIf (!(1 ≤ seconds && seconds ≤ O.maxLeaseSeconds)) .invalidLease
  let row ← getTransaction K O s tid
  refuseIf (row.state != .prepared) .approvalAlreadyProcessed
  refuseIf (s.unreceipted tid) .chainReceiptRequired
  let ownerAttempts ← orRefuse (s.ownerAttempts.insert tid (seconds, R.wall))
    .ownerAuthorizationAlreadyStarted
  addEvent { s with ownerAttempts } R 2 tid (.ownerAuthorizationIntent seconds row.hash)

/-- `approval_request`: what the approver is asked to sign. -/
def approvalRequest (s : PortStore) (tid : PyStr) (seconds : Int) (method reference : PyStr)
    (approvedNs : Int) (R : PortReadings) : PortResult PortApproval := do
  let row ← getTransaction K O s tid
  refuseIf (row.state != .prepared) .approvalAlreadyProcessed
  refuseIf (!(1 ≤ seconds && seconds ≤ O.maxLeaseSeconds)) .invalidLease
  return ⟨"kestrel-port-approval/1".toList, R.uuid, tid, row.hash, O.owner, R.wall, seconds, O.bootId,
    R.boot, method, reference, approvedNs⟩

/-- The checks `approve` makes of its argument. -/
def approvalValid (a : PortApproval) (signature : Bytes) (R : PortReadings) : Bool :=
  a.schema == "kestrel-port-approval/1".toList && a.owner == O.owner && a.bootId == O.bootId &&
    isHexOf 32 a.approvalId &&
    0 ≤ R.wall - a.issuedNs && R.wall - a.issuedNs ≤ 120000000000 &&
    1 ≤ a.leaseSeconds && a.leaseSeconds ≤ O.maxLeaseSeconds &&
    0 ≤ R.boot - a.issuedBoottime && R.boot - a.issuedBoottime ≤ 120 &&
    a.method == O.requiredApprovalMethod &&
    (a.method == "duo".toList || a.method == "test".toList) &&
    16 ≤ a.reference.length && a.reference.length ≤ 128 &&
    a.reference.all (fun c => c.isAlphanum || c == '-') &&
    a.approvedNs ≤ a.issuedNs && K.verify O.key signature a

def approve (s : PortStore) (a : PortApproval) (signature : Bytes) (R : PortReadings) :
    PortResult PortStore := do
  refuseIf (!approvalValid K O a signature R) .invalidApproval
  let expiry := a.issuedNs + a.leaseSeconds * 1000000000
  refuseIf (expiry ≤ R.leaseWall || a.issuedBoottime + a.leaseSeconds ≤ R.leaseBoot)
    .approvalLeaseAlreadyExpired
  let row ← getTransaction K O s a.transactionId
  refuseIf (row.state != .prepared || row.hash != a.planSha256) .approvalReusedOrWrongBundle
  refuseIf (s.approvals.any (·.1 == a.approvalId)) .approvalReused
  refuseIf (s.approvals.any (·.2 == a.transactionId)) .integrityError
  let lease : PortLease := ⟨a, signature, expiry, a.issuedBoottime + a.leaseSeconds⟩
  addEvent { s with
    approvals := s.approvals ++ [(a.approvalId, a.transactionId)]
    transactions := s.transactions.modify a.transactionId
      (fun row => { row with state := .approved, lease := some lease }) } R 2 a.transactionId
    (.approval a signature)

/-- The last `apply` request of the transaction has not been dispatched. -/
def PortStore.applyUndispatched : Bool :=
  ((s.requests.all.filter (fun p => p.2.transactionId == tid && p.2.verb == .apply)).getLast?).any
    (fun p => !p.2.dispatched)

/-- The end of the lease closes a transaction in that state. -/
def PortStore.closesAtExpiry : PortState → Bool
  | .approved | .preflightVerified | .preflighting => true
  | .applying => s.applyUndispatched tid
  | _ => false

/-- `_refresh`: the end of the lease is noticed, and closes what was not applied. -/
def refresh (s : PortStore) (tid : PyStr) (R : PortReadings) :
    PortResult PortStore := do
  let row ← getTransaction K O s tid
  match row.lease with
  | none => return s
  | some l =>
    if !row.state.closed && !row.expired &&
        (l.expiresNs ≤ R.refreshWall || l.deadline ≤ R.refreshBoot) then do
      let transactions := s.transactions.modify tid (fun row => { row with expired := true })
      let s1 ← addEvent { s with transactions } R 0 tid
        (.leaseExpired l.approval.approvalId row.state)
      if s.closesAtExpiry tid row.state then
        let transactions := s1.transactions.modify tid (fun row =>
          { row with state := .expiredBeforeApply, closeReason := some .leaseExpired })
        addEvent { s1 with transactions } R 1 tid (.close .expiredBeforeApply)
      else return s1
    else return s

/-- The states a verb may be begun in. -/
def PortVerb.allowed : PortVerb → List PortState
  | .preflight => [.approved]
  | .apply => [.preflightVerified]
  | .verify => [.applied, .verified]
  | .restore => [.applied, .verified, .verifyFailed]
  | .verifyRestored => [.restoreApplied]
  | .reconcile => [.unknown]

/-- The state while a verb runs. -/
def PortVerb.running : PortVerb → PortState
  | .preflight => .preflighting
  | .apply => .applying
  | .verify => .verifying
  | .restore => .restoring
  | .verifyRestored => .verifyingRestore
  | .reconcile => .reconciling

/-- The verbs the lease is for. -/
def PortVerb.needsLease : PortVerb → Bool
  | .preflight | .apply => true
  | _ => false

def freshPreflight (row : PortRow) (R : PortReadings) : PortResult Unit :=
  refuseIf (match row.preflight with
    | none => true
    | some (wall, boot) => !(0 ≤ R.freshWall - wall && R.freshWall - wall ≤ 30000000000 &&
        0 ≤ R.freshBoot - boot && R.freshBoot - boot ≤ 30)) .preflightStale

variable (verb : PortVerb)

/-- `if verb == 'apply': self._fresh_preflight(row)`. -/
def freshForApply (row : PortRow) (R : PortReadings) : PortResult Unit :=
  if verb = .apply then freshPreflight row R else .ok ()

/-- A request, as the caller names it; `verb` is `none` for a text that is no verb. -/
structure PortRequest where
  transactionId : PyStr
  requestId : PyStr
  verb : Option PortVerb
  /-- the dict has these keys and no others -/
  exact : Bool
deriving DecidableEq

/-- `begin`, after the refresh. -/
def beginVerb (s : PortStore) (tid : PyStr) (verb : Option PortVerb) (R : PortReadings) :
    PortResult (PortStore × PortRequest) := do
  let row ← getTransaction K O s tid
  let verb ← orRefuse verb .verbNotAllowedInTransactionState
  refuseIf (decide (row.state ∉ verb.allowed)) .verbNotAllowedInTransactionState
  freshForApply verb row R
  let lease ← orRefuse row.lease .leaseExpired
  refuseIf (row.expired && verb.needsLease) .leaseExpired
  refuseIf (s.unreceipted tid) .chainReceiptRequired
  let requests ← orRefuse (s.requests.insert R.uuid ⟨tid, verb, false, false⟩) .integrityError
  let s ← addEvent { s with
      requests
      transactions := s.transactions.modify tid (fun row => { row with state := verb.running }) }
    R 2 tid (.intent verb R.uuid lease.approval.approvalId row.hash)
  return (s, ⟨tid, R.uuid, some verb, true⟩)

/-- `_request`. -/
def getRequest (s : PortStore) (r : PortRequest) :
    PortResult (RequestRow × PortRow) := do
  refuseIf (!r.exact) .invalidRequest
  let q ← orRefuse (s.requests.get r.requestId) .requestReusedOrMismatched
  refuseIf (q.transactionId != r.transactionId || some q.verb != r.verb || q.finished)
    .requestReusedOrMismatched
  let row ← getTransaction K O s r.transactionId
  return (q, row)

/-- The command a request needs a native approval for. -/
def neededCommand (b : PortBundle) : PyStr :=
  match verb with
  | .apply => b.plan.forward
  | .restore => b.plan.rollback
  | _ => showRunning b.target.port

def nativeIds (b : PortBundle) : List PyStr :=
  match verb with
  | .apply => [b.nativeProposals.forward.proposalId]
  | .restore => [b.nativeProposals.restore.proposalId]
  | .preflight => [b.nativeProposals.preflight.proposalId]
  | _ => b.nativeProposals.verify.map (·.proposalId)

/-- The lease has ended, for a verb that needs it. -/
def leaseOver (row : PortRow) (l : PortLease) (R : PortReadings) : Bool :=
  verb.needsLease && (row.expired || l.expiresNs ≤ R.leaseWall || l.deadline ≤ R.leaseBoot)

/-- `_native_command`: the command's tier. -/
def nativeCommand (q : RequestRow) (row : PortRow) (command : Option PyStr) (R : PortReadings) :
    PortResult PyStr := do
  refuseIf q.dispatched .dispatchAlreadyConsumed
  freshForApply q.verb row R
  let l ← orRefuse row.lease .leaseExpired
  refuseIf (leaseOver q.verb row l R) .leaseExpired
  refuseIf (command != some (neededCommand q.verb row.body)) .nativeCommandOutsideApprovedPlan
  return match q.verb with
    | .apply | .restore => row.body.plan.tier
    | _ => "YELLOW".toList

/-- `reserve_native`, after the refresh. -/
def reserveNative (s : PortStore) (r : PortRequest) (c : NativeChallenge) (R : PortReadings) :
    PortResult (PortStore × PyStr) := do
  let (q, row) ← getRequest K O s r
  let tier ← nativeCommand q row c.command R
  let command ← orRefuse c.command .nativeCommandOutsideApprovedPlan
  let proposalId ← orRefuse c.proposalId .nativeProposalNotInApprovedInventory
  refuseIf (decide (proposalId ∉ nativeIds q.verb row.body)) .nativeProposalNotInApprovedInventory
  let _ ← orRefuse (K.validateChallenge c row.body.target.device command
    row.body.target.deviceNodeId R.wall tier) .nativeChallengeBindingInvalid
  refuseIf (s.unreceipted r.transactionId) .chainReceiptRequired
  refuseIf (s.issuances.all.any (fun p => p.2.requestId == r.requestId && p.2.command == command))
    .nativeApprovalAlreadyReserved
  let issuances ← orRefuse (s.issuances.insert proposalId ⟨r.requestId, command, c, false⟩)
    .nativeApprovalAlreadyReserved
  let l ← orRefuse row.lease .noApproval
  let s ← addEvent { s with issuances } R 2 r.transactionId
    (.nativeApprovalIntent r.requestId proposalId command c.canonical l.approval.approvalId)
  return (s, proposalId)

/-- `native_signable`, after the refresh. -/
def nativeSignable (s : PortStore) (r : PortRequest) (proposalId : PyStr) (R : PortReadings) :
    PortResult (PortStore × Bytes) := do
  let (q, row) ← getRequest K O s r
  let n ← orRefuse (s.issuances.get proposalId) .nativeApprovalUnknownOrReused
  refuseIf (n.requestId != r.requestId || n.issued) .nativeApprovalUnknownOrReused
  refuseIf (decide (proposalId ∉ nativeIds q.verb row.body)) .nativeProposalNotInApprovedInventory
  let tier ← nativeCommand q row (some n.command) R
  refuseIf (n.challenge.proposalId != some proposalId) .nativeProposalBindingChanged
  let raw ← orRefuse (K.validateChallenge n.challenge row.body.target.device n.command
    row.body.target.deviceNodeId R.wall tier) .nativeChallengeBindingInvalid
  refuseIf (s.unreceipted r.transactionId) .chainReceiptRequired
  let issuances := s.issuances.modify proposalId (fun n => { n with issued := true })
  let s ← addEvent { s with issuances } R 2 r.transactionId
    (.nativeSignatureIssuance r.requestId proposalId)
  return (s, raw)

/-- `port_evidence.commands`. -/
def preconditionCommands (port : PyStr) : List PyStr :=
  [showRunning port, "show interfaces ".toList ++ port ++ " switchport".toList,
   "show mac address-table interface ".toList ++ port,
   "show cdp neighbors ".toList ++ port ++ " detail".toList,
   "show lldp neighbors ".toList ++ port ++ " detail".toList,
   "show etherchannel summary".toList, "show vlan brief".toList]

/-- What a dispatched request may send to the device. -/
def dispatchedCommands (b : PortBundle) : List PyStr :=
  match verb with
  | .apply => [b.plan.forward]
  | .restore => [b.plan.rollback]
  | .preflight => preconditionCommands b.target.port
  | _ => b.verification

/-- The lease has not ended, if the verb needs it; a row without an approval has no end of
the lease to compare with. -/
def leaseInForce (row : PortRow) (R : PortReadings) : PortResult Unit :=
  if verb.needsLease then do
    let l ← orRefuse row.lease .noApproval
    refuseIf (leaseOver verb row l R) .leaseExpired
  else .ok ()

/-- `require_dispatch`, after the refresh. -/
def requireDispatch (s : PortStore) (r : PortRequest) (R : PortReadings) :
    PortResult (PortStore × List PyStr) := do
  let (q, row) ← getRequest K O s r
  refuseIf q.dispatched .dispatchAlreadyConsumed
  freshForApply q.verb row R
  refuseIf (row.state == .expiredBeforeApply) .leaseExpired
  leaseInForce q.verb row R
  refuseIf (s.unreceipted r.transactionId) .chainReceiptRequired
  let n ← orRefuse (s.issuances.all.find? (fun p => p.2.requestId == r.requestId &&
    p.2.command == neededCommand q.verb row.body)) .nativeApprovalIssuanceRequired
  refuseIf (!n.2.issued) .nativeApprovalIssuanceRequired
  let requests := s.requests.modify r.requestId (fun q => { q with dispatched := true })
  return ({ s with requests }, dispatchedCommands q.verb row.body)

/-- `record_interruption`, after the refresh. -/
def recordInterruption (s : PortStore) (r : PortRequest) (reason : InterruptionReason)
    (R : PortReadings) : PortResult PortStore := do
  let (q, row) ← getRequest K O s r
  refuseIf row.state.closed .transactionAlreadyClosed
  let preflight := decide (q.verb = .preflight)
  let s ← addEvent { s with
      requests := s.requests.modify r.requestId (fun q => { q with finished := true })
      transactions := s.transactions.modify r.transactionId (fun row => { row with
        state := if preflight then .preflightRefused else .unknown
        closeReason := if preflight then some .preflightUnproven else none }) } R 2 r.transactionId
    (.helperInterruption r.requestId reason q.dispatched)
  if preflight then addEvent s R 3 r.transactionId (.close .preflightUnproven) else return s

/-- The state a finished verb leads to, and the reason if that closes the transaction. -/
def nextState (outcome : PortOutcome) (expired : Bool) : Option (PortState × Option CloseReason) :=
  match verb, outcome with
  | .preflight, .isMatch => some (.preflightVerified, none)
  | .preflight, .mismatch => some (.preflightRefused, some .preflightMismatch)
  | .preflight, .unknown => some (.preflightRefused, some .preflightUnproven)
  | .apply, .executed => some (.applied, none)
  | .apply, .unknown => some (.unknown, none)
  | .restore, .executed => some (.restoreApplied, none)
  | .restore, .unknown => some (.unknown, none)
  | .verify, .isMatch => some (.verified, none)
  | .verify, .mismatch => some (.verifyFailed, none)
  | .verify, .unknown => some (.unknown, none)
  | .verifyRestored, .isMatch =>
    some (.restored, some (if expired then .leaseExpired else .roundtripComplete))
  | .verifyRestored, .mismatch => some (.unknown, none)
  | .verifyRestored, .unknown => some (.unknown, none)
  | .reconcile, .matchesForward => some (.applied, none)
  | .reconcile, .matchesBefore => some (.restored, some .reconciledToBaseline)
  | .reconcile, .unknown => some (.unknown, none)
  | _, _ => none

/-- The outcomes of a preflight. -/
def PortOutcome.ofPreflight : PortOutcome → Bool
  | .isMatch | .mismatch | .unknown => true
  | _ => false

/-- `finish`, after the refresh. -/
def finishRequest (s : PortStore) (r : PortRequest) (outcome : PortOutcome)
    (observationHash : PyStr) (evidence : Option PortEvidence) (R : PortReadings) :
    PortResult PortStore := do
  let (q, row) ← getRequest K O s r
  refuseIf (!q.dispatched) .requestNotDispatched
  let requests := s.requests.modify r.requestId (fun q => { q with finished := true })
  if q.verb = .preflight ∧ row.state = .expiredBeforeApply then do
    refuseIf (!outcome.ofPreflight) .invalidOutcome
    addEvent { s with requests } R 2 r.transactionId
      (.outcome .preflight r.requestId outcome observationHash evidence true)
  else do
    let (next, reason) ← orRefuse (nextState q.verb outcome row.expired) .invalidOutcome
    let stamp := if q.verb = .preflight ∧ outcome = .isMatch then some (R.wall, R.boot)
      else row.preflight
    let s ← addEvent { s with
        requests
        transactions := s.transactions.modify r.transactionId (fun row =>
          { row with preflight := stamp, state := next, closeReason := reason }) } R 2 r.transactionId
      (.outcome q.verb r.requestId outcome observationHash evidence false)
    match reason with
    | some reason => addEvent s R 3 r.transactionId (.close reason)
    | none => return s

def PortReceipt.valid (r : PortReceipt) (e : EventRow) : Bool :=
  isHexOf 64 r.chainEntryHash && r.artifactId == e.eventId

/-- `flush`: every event without a receipt gets one. -/
def flushEvents (append : EventRow → Option PortReceipt) : PortResult PortStore := do
  refuseIf (s.events.any (fun e => e.receipt.isNone && !(append e).any (·.valid e)))
    .invalidLedgerReceipt
  return { s with events := s.events.map (fun e =>
    if e.receipt.isNone then { e with receipt := append e } else e) }

/-! ## Calls -/

/-- A call of a method. -/
inductive PortCall where
  | create (body : PortBundle)
  | beginAuthorization (tid : PyStr) (seconds : Int)
  | approvalRequest (tid : PyStr) (seconds : Int) (method reference : PyStr) (approvedNs : Int)
  | approve (a : PortApproval) (signature : Bytes)
  | status (tid : PyStr)
  | start (tid : PyStr) (verb : Option PortVerb)
  | reserveNative (r : PortRequest) (c : NativeChallenge)
  | nativeSignable (r : PortRequest) (proposalId : PyStr)
  | requireDispatch (r : PortRequest)
  | recordInterruption (r : PortRequest) (reason : InterruptionReason)
  | finish (r : PortRequest) (outcome : PortOutcome) (observationHash : PyStr)
      (evidence : Option PortEvidence)
  | events (tid : PyStr)
  | flush (append : EventRow → Option PortReceipt)

/-- What a call returns. -/
inductive PortAnswer where
  | refused (e : PortRefusal)
  | done
  | toSign (a : PortApproval)
  | status (state : PortState) (expired : Bool) (closeReason : Option CloseReason)
  | events (l : List EventRow)
  | created (tid : PyStr)
  | begun (r : PortRequest)
  | reserved (proposalId : PyStr)
  | signable (raw : Bytes)
  | dispatched (commands : List PyStr)
deriving DecidableEq

/-- What the method itself does, after its refresh. -/
def portBody (R : PortReadings) (s : PortStore) :
    PortCall → PortResult (PortStore × PortAnswer)
  | .create body => (createTransaction K O s body R).map fun p => (p.1, .created p.2)
  | .beginAuthorization tid seconds =>
    (beginAuthorization K O s tid seconds R).map fun s => (s, .done)
  | .approvalRequest tid seconds method reference approvedNs =>
    (approvalRequest K O s tid seconds method reference approvedNs R).map fun a => (s, .toSign a)
  | .approve a signature => (approve K O s a signature R).map fun s => (s, .done)
  | .status tid => (getTransaction K O s tid).map fun row =>
    (s, .status row.state row.expired row.closeReason)
  | .start tid verb => (beginVerb K O s tid verb R).map fun p => (p.1, .begun p.2)
  | .reserveNative r c => (reserveNative K O s r c R).map fun p => (p.1, .reserved p.2)
  | .nativeSignable r pid => (nativeSignable K O s r pid R).map fun p => (p.1, .signable p.2)
  | .requireDispatch r => (requireDispatch K O s r R).map fun p => (p.1, .dispatched p.2)
  | .recordInterruption r reason => (recordInterruption K O s r reason R).map fun s => (s, .done)
  | .finish r outcome hash evidence =>
    (finishRequest K O s r outcome hash evidence R).map fun s => (s, .done)
  | .events tid => .ok (s, .events (s.events.filter (·.transactionId == tid)))
  | .flush append => (flushEvents s append).map fun s => (s, .done)

/-- The transaction a call refreshes first. -/
def PortCall.refreshes : PortCall → Option PyStr
  | .create _ | .beginAuthorization _ _ | .approvalRequest _ _ _ _ _ | .approve _ _ | .events _
  | .flush _ => none
  | .status tid | .start tid _ => some tid
  | .reserveNative r _ | .nativeSignable r _ | .requireDispatch r | .recordInterruption r _
  | .finish r _ _ _ => some r.transactionId

def PortEvidence.wellFormed (e : PortEvidence) : Bool :=
  isHexOf 32 e.artifactId && isHexOf 64 e.artifactHash && isHexOf 64 e.chainEntryHash

/-- What a call refuses before it looks at the store. -/
def PortCall.malformed : PortCall → Option PortRefusal
  | .recordInterruption _ .other => some .invalidInterruptionReason
  | .finish _ _ hash evidence =>
    if !isHexOf 64 hash then some .missingObservation
    else if evidence.any (fun e => !e.wellFormed) then some .invalidComparisonEvidence
    else none
  | _ => none

/-- A call under the settings it is made with. -/
structure PortEntry where
  owner : PortOwner
  readings : PortReadings
  call : PortCall

/-- A transaction on the database: what it raises rolls it back. -/
def portAtomic (x : PortResult (PortStore × PortAnswer)) : PortStore × PortAnswer :=
  match x with
  | .ok p => p
  | .error e => (s, .refused e)

/-- One call. -/
def portStep (c : PortEntry) : PortStore × PortAnswer :=
  match c.call.malformed with
  | some e => (s, .refused e)
  | none =>
    match c.call.refreshes with
    | none => portAtomic s (portBody K c.owner c.readings s c.call)
    | some tid =>
      match refresh K c.owner s tid c.readings with
      | .error e => (s, .refused e)
      | .ok s => portAtomic s (portBody K c.owner c.readings s c.call)

end Virp
