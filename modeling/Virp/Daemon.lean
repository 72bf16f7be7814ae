import Virp.Approval
import Virp.Policy
import Virp.Session
import Virp.Library.Threads

/-! # The daemon's shared state and the operations on it

The daemon serves every request on a thread of its own.  What the threads share is
`DaemonState`: the chain database, the files of the approval store, the session, the
policy's journal, two locks and the latch that stops dispatching.  A thread touches
it one atomic operation at a time (`Op`): a transaction of the database, a file
replaced by a rename, a critical section.  What the operating system, a library or a
device decides about it is its environment (`DaemonEnv`); `world` says what it does.
-/
namespace Virp

open Threads

/-- The part of `onode_state_t` that is fixed while the process runs. -/
structure OnodeConfig where
  nodeId : UInt32
  serverId : Field 64
  devices : List Device
  drivers : Vendor → Option Driver
  gateDefaultMode : GateMode
  gateOverrides : List (Bytes × GateMode)
  gateMaxTier : Tier
  uidCeilings : List (UInt32 × Tier)
  evidenceRequired : Bool
  /-- `approval_dir[0]`. -/
  approvalDir : Bool
  /-- The registry, if `approvers_loaded`. -/
  approvers : Option (List Approver)
  /-- The chain handle, if `chain_enabled`. -/
  chain : Option Handle
  /-- The public half of the observation key, if loaded. -/
  obsKey : Option Bytes
  executeV3 : Bool
  policy : Option Policy

/-- A file of the approval store. -/
inductive FileName where
  | proposal (id : Bytes)
  | challenge (id : Bytes)
  | approval (id : Bytes)
  | consumedList
deriving DecidableEq

/-- What the threads share. -/
structure DaemonState where
  cfg : OnodeConfig
  chain : Store
  files : FileName → Option Bytes
  session : SessionCtx
  degraded : Bool
  seqNum : UInt32
  journal : Journal
  consumeLock : Option Nat
  submitLock : Option Nat

/-- `virp_disposition_t`. -/
inductive Disposition where
  | unset | notSent | executedConfirmed | executedFailed | executedUnknown
deriving DecidableEq, Repr

/-- `virp_exec_result_t`.  `output` has the length the driver reports. -/
structure ExecResult where
  output : Bytes
  success : Bool
  exitCode : Int
  errorMsg : Field 256
  disposition : Disposition
  exitCodeTrusted : Bool
  outputTruncated : Bool
  noDispatch : Bool
deriving DecidableEq

/-- What a call of a driver's `execute` returns: its error, if any, and the result. -/
structure DriverReturn where
  err : Option VirpError
  result : ExecResult
deriving DecidableEq

/-- The call failed, or reported a length outside the storage it returned. -/
def DriverReturn.failure (r : DriverReturn) : Option VirpError :=
  if 65536 ≤ r.result.output.length then some .invalidLength else r.err

/-- `virp_obs_type`, of the observations an execute request is answered with. -/
inductive ObsKind where
  | error | deviceOutput
deriving DecidableEq, Repr

/-- A signed observation. -/
structure Observation where
  nodeId : UInt32
  kind : ObsKind
  tier : Tier
  payload : Bytes
deriving DecidableEq

/-- An execute request, as `handle_client` or a batch thread passes it on.  An empty
`proposalId` is a null pointer. -/
structure Request where
  device : Field 64
  command : Field 1024
  proposalId : Field 33
  obsVersion : Int
  uid : UInt32

/-- The driver call of a request, with the proposal whose approval admitted it, if it
took one. -/
structure Dispatch where
  device : Bytes
  command : Bytes
  approval : Option Bytes
deriving DecidableEq

/-- One atomic step of a thread. -/
inductive Op where
  /-- Take up an execute request. -/
  | accept (req : Request)
  /-- Read the configuration, on behalf of another kind of request. -/
  | config
  /-- `clock_gettime(CLOCK_REALTIME)`. -/
  | now
  /-- `time(NULL)`. -/
  | time
  /-- `onode_next_seq`. -/
  | nextSeq
  /-- Look at the session under its lock. -/
  | session
  | hello (hello : Hello)
  | bind (bind : Bind)
  | close
  /-- Build and sign an observation under the O-Key. -/
  | buildObservation (obs : Observation)
  /-- Build one under the session key, if the session is ready, and is still the given
  one. -/
  | buildSessionObservation (expected : Option (UInt64 × Bytes)) (payload : Bytes)
  | ensureDirs
  | readFile (name : FileName)
  | writeFile (name : FileName) (content : Bytes)
  /-- `stat` of the approval directory. -/
  | storePresent
  /-- 16 random bytes. -/
  | random
  /-- `cJSON_PrintUnformatted`. -/
  | print (o : Json)
  /-- `virp_chain_append_with_artifact`; `object` is the document the body spells. -/
  | append (call : AppendCall) (object : Option Json)
  /-- `virp_chain_count_intents_for_approval`. -/
  | countIntents (aeh : Field 65)
  /-- `virp_chain_artifact_type_exists`. -/
  | typeExists (artifactId artifactType : Bytes)
  | isDegraded
  /-- `onode_mark_evidence_degraded`. -/
  | markDegraded
  | lockConsume
  | unlockConsume
  | lockSubmit
  | unlockSubmit
  /-- `virp_policy_reserve`. -/
  | reserve (policy : Policy) (action : PolicyAction)
  /-- `virp_policy_finish`. -/
  | finish (ticket : Nat) (known : Bool)
  /-- `get_connection`. -/
  | connect (device : Bytes)
  /-- `drop_connection`. -/
  | drop (device : Bytes)
  | healthCheck (device : Bytes)
  /-- `drv->execute`. -/
  | execute (call : Dispatch)

/-- The type of an operation's result. -/
def Op.Res : Op → Type
  | .accept _ => OnodeConfig
  | .config => OnodeConfig
  | .now => UInt64
  | .time => Int
  | .nextSeq => UInt32
  | .session => SessionCtx
  | .hello _ => Option VirpError
  | .bind _ => Option VirpError
  | .close => Unit
  | .buildObservation _ => Option VirpError
  | .buildSessionObservation _ _ => Option VirpError
  | .ensureDirs => Option VirpError
  | .readFile _ => Except Errno Bytes
  | .writeFile _ _ => Option VirpError
  | .storePresent => Bool
  | .random => Option Bytes
  | .print _ => Option Bytes
  | .append _ _ => Except VirpError Entry
  | .countIntents _ => Except VirpError Nat
  | .typeExists _ _ => Except VirpError Bool
  | .isDegraded => Bool
  | .markDegraded => Unit
  | .lockConsume => Unit
  | .unlockConsume => Unit
  | .lockSubmit => Unit
  | .unlockSubmit => Unit
  | .reserve _ _ => Except Bytes Nat
  | .finish _ _ => Bool
  | .connect _ => Bool
  | .drop _ => Unit
  | .healthCheck _ => Option VirpError
  | .execute _ => DriverReturn

/-- The daemon's operations. -/
def Daemon : Interface := ⟨Op, Op.Res⟩

/-! ## What decides about an operation -/

/-- The libraries: the crypto primitives, cJSON, and the two filters a captured output
goes through. -/
structure Libs where
  C : Crypto
  print : Json → Bytes
  parse : Bytes → Option Json
  /-- `virp_body_filter_apply`, by driver and command. -/
  filterBody : Bytes → Bytes → Bytes → Bytes
  /-- `virp_scrub_exec_result`. -/
  scrub : Bytes → Bytes

/-- What the outside decides about one operation. -/
structure DaemonEnv where
  /-- The steps of an append that fail, and its clocks. -/
  append : Env
  /-- A query of the chain fails. -/
  queryFails : Bool
  now : UInt64
  time : Int
  /-- `fopen` fails although the file may be there. -/
  readError : Option Errno
  /-- A file cannot be replaced. -/
  writeFails : Bool
  dirsError : Option VirpError
  storePresent : Bool
  /-- The random generator, for an id and for a nonce. -/
  random : Option (Bytes × Bytes)
  outOfMemory : Bool
  /-- Signing fails, or the message does not fit. -/
  buildError : Option VirpError
  keyFails : Bool
  policy : PolicyEnv
  finishFails : Bool
  connected : Bool
  health : Option VirpError
  driver : DriverReturn
  /-- The configuration a restart reads. -/
  restart : OnodeConfig

namespace DaemonState
variable (L : Libs) (env : DaemonEnv) (s : DaemonState)

/-- Put a text in place of a file. -/
def writeFile (name : FileName) (content : Bytes) : DaemonState :=
  { s with files := fun f => if f = name then some content else s.files f }

/-- Take the session's lock, which lets it expire. -/
def lockSession : DaemonState := { s with session := s.session.checkTimeouts env.now }

/-- `virp_build_observation_v2` and its Ed25519 counterpart, under the session's lock. -/
def buildSession (expected : Option (UInt64 × Bytes)) : DaemonState × Option VirpError :=
  let s := s.lockSession env
  if s.session.ready = false ∨
      expected.any (fun e => e.1 != s.session.generation || e.2 != s.session.sessionId) then
    (s, some .sessionInvalid)
  else ({ s with session := { s.session with
      lastSeq := s.session.lastSeq + 1, lastActivityNs := env.now } }, env.buildError)

/-- Append to the chain, if there is one. -/
def appendChain (call : AppendCall) : DaemonState × Except VirpError Entry :=
  match s.cfg.chain with
  | none => (s, .error .nullPtr)
  | some h =>
    let r := chainAppendLocked L.C h env.append s.chain call
    ({ s with chain := r.1 }, r.2)

/-- Answer a query of the chain. -/
def queryChain {α : Type} (f : Db → α) : Except VirpError α :=
  if s.cfg.chain.isNone then .error .nullPtr
  else if env.queryFails then .error .chainDb
  else .ok (f s.chain.view)

/-- What an operation of thread `i` does; `none` if it has to wait. -/
def act (i : Nat) : (o : Op) → Option (DaemonState × Op.Res o)
  | .accept _ => some (s, s.cfg)
  | .config => some (s, s.cfg)
  | .now => some (s, env.now)
  | .time => some (s, env.time)
  | .nextSeq => some ({ s with seqNum := s.seqNum + 1 }, s.seqNum + 1)
  | .session => let s := s.lockSession env; some (s, s.session)
  | .hello h =>
    let s := s.lockSession env
    let r := s.session.handleHello env.now env.random h
    some ({ s with session := r.1 }, r.2)
  | .bind b =>
    let s := s.lockSession env
    let r := s.session.handleBind env.keyFails b
    some ({ s with session := r.1 }, r.2)
  | .close => some ({ s with session := (s.lockSession env).session.reset }, ())
  | .buildObservation _ => some (s, env.buildError)
  | .buildSessionObservation expected _ => some (s.buildSession env expected)
  | .ensureDirs => some (s, env.dirsError)
  | .readFile name =>
    some (s, match env.readError, s.files name with
      | some e, _ => .error e
      | none, some b => .ok b
      | none, none => .error .noent)
  | .writeFile name content =>
    some (if env.writeFails then (s, some .chainDb) else (s.writeFile name content, none))
  | .storePresent => some (s, env.storePresent)
  | .random => some (s, env.random.map Prod.fst)
  | .print o => some (s, if env.outOfMemory then none else some (cstr (L.print o)))
  | .append call _ => some (s.appendChain L env call)
  | .countIntents aeh => some (s, s.queryChain env (fun db => countIntentsForApproval L.parse db aeh))
  | .typeExists id type => some (s, s.queryChain env (fun db =>
      db.entries.rows.any (fun r => r.artifactId == id && r.artifactType == type)))
  | .isDegraded => some (s, s.degraded)
  | .markDegraded => some ({ s with degraded := s.degraded || s.cfg.evidenceRequired }, ())
  | .lockConsume => if s.consumeLock.isSome then none else some ({ s with consumeLock := some i }, ())
  | .unlockConsume => some ({ s with consumeLock := none }, ())
  | .lockSubmit => if s.submitLock.isSome then none else some ({ s with submitLock := some i }, ())
  | .unlockSubmit => some ({ s with submitLock := none }, ())
  | .reserve p a =>
    some (match virpPolicyReserve p env.policy s.journal a with
      | .ok (j, ticket) => ({ s with journal := j }, .ok ticket)
      | .error why => (s, .error why))
  | .finish ticket known =>
    some (match virpPolicyFinish env.finishFails s.journal ticket known with
      | some j => ({ s with journal := j }, true)
      | none => (s, false))
  | .connect _ => some (s, env.connected)
  | .drop _ => some (s, ())
  | .healthCheck _ => some (s, env.health)
  | .execute _ => some (s, env.driver)

/-- A restart keeps the files and what the databases have committed. -/
def crash : DaemonState where
  cfg := env.restart
  chain := ⟨s.chain.committed, none⟩
  files := s.files
  session := .init env.restart.serverId
  degraded := false
  seqNum := 0
  journal := if env.restart.policy.isSome then s.journal.reload else s.journal
  consumeLock := none
  submitLock := none

end DaemonState

/-- The daemon as a world of operations. -/
def world (L : Libs) : World Daemon DaemonState DaemonEnv where
  act i env s o := s.act L env i o
  crash env s := s.crash env

/-! ## The operations as programs -/

/-- A program of the daemon. -/
abbrev DProg := Prog Daemon

namespace Sys

abbrev now : DProg UInt64 := .perform (I := Daemon) Op.now
abbrev nextSeq : DProg UInt32 := .perform (I := Daemon) Op.nextSeq
abbrev session : DProg SessionCtx := .perform (I := Daemon) Op.session
abbrev buildObservation (obs : Observation) : DProg (Option VirpError) :=
  .perform (I := Daemon) (Op.buildObservation obs)
abbrev buildSessionObservation (expected : Option (UInt64 × Bytes)) (payload : Bytes) :
    DProg (Option VirpError) := .perform (I := Daemon) (Op.buildSessionObservation expected payload)
abbrev ensureDirs : DProg (Option VirpError) := .perform (I := Daemon) Op.ensureDirs
abbrev readFile (name : FileName) : DProg (Except Errno Bytes) := .perform (I := Daemon) (Op.readFile name)
abbrev writeFile (name : FileName) (content : Bytes) : DProg (Option VirpError) :=
  .perform (I := Daemon) (Op.writeFile name content)
abbrev storePresent : DProg Bool := .perform (I := Daemon) Op.storePresent
abbrev random : DProg (Option Bytes) := .perform (I := Daemon) Op.random
abbrev print (o : Json) : DProg (Option Bytes) := .perform (I := Daemon) (Op.print o)
abbrev append (call : AppendCall) (object : Option Json) : DProg (Except VirpError Entry) :=
  .perform (I := Daemon) (Op.append call object)
abbrev countIntents (aeh : Field 65) : DProg (Except VirpError Nat) := .perform (I := Daemon) (Op.countIntents aeh)
abbrev typeExists (id type : Bytes) : DProg (Except VirpError Bool) := .perform (I := Daemon) (Op.typeExists id type)
abbrev isDegraded : DProg Bool := .perform (I := Daemon) Op.isDegraded
abbrev markDegraded : DProg Unit := .perform (I := Daemon) Op.markDegraded
abbrev lockConsume : DProg Unit := .perform (I := Daemon) Op.lockConsume
abbrev unlockConsume : DProg Unit := .perform (I := Daemon) Op.unlockConsume
abbrev lockSubmit : DProg Unit := .perform (I := Daemon) Op.lockSubmit
abbrev unlockSubmit : DProg Unit := .perform (I := Daemon) Op.unlockSubmit
abbrev reserve (p : Policy) (a : PolicyAction) : DProg (Except Bytes Nat) := .perform (I := Daemon) (Op.reserve p a)
abbrev connect (device : Bytes) : DProg Bool := .perform (I := Daemon) (Op.connect device)
abbrev drop (device : Bytes) : DProg Unit := .perform (I := Daemon) (Op.drop device)
abbrev healthCheck (device : Bytes) : DProg (Option VirpError) := .perform (I := Daemon) (Op.healthCheck device)
abbrev execute (call : Dispatch) : DProg DriverReturn := .perform (I := Daemon) (Op.execute call)

end Sys

end Virp
