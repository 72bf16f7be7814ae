import Virp.Library.Machine
import Virp.ChainVerify

/-! # Appends submitted by clients

A client of the daemon's socket may append to the chain.  Its entry receives the chain's
MAC like any other, so the daemon looks at it first: the type must be one the client may
submit, a body must be what the entry commits to, an observation must be a signed one,
and an outcome must cite what is already on the chain.

The wire formats of observations have their own modules in the daemon; what they accept
is the parameter `V`.
-/
namespace Virp

/-- `virp_chain_type_is_daemon_reserved`. -/
def typeIsDaemonReserved (t : Bytes) : Bool :=
  [text "approval", text "proposal", text "outcome", text "gate_rejection", text "gate_execution",
    text "gate_intent", text "node_config", text "validation"].contains t

/-- `virp_chain_type_is_external_allowed`. -/
def typeIsExternalAllowed (t : Bytes) : Bool :=
  typeIsIndirect t ||
    [text "observation", text "evidence_item", text "no_drift", text "baseline_set",
      text "drift_alert", text "fed_request", text "fed_observation", text "fed_outcome",
      text "fed_error"].contains t

/-- The types whose body is a signed message. -/
def typeIsObservation (t : Bytes) : Bool := t == text "observation" || t == text "fed_observation"

/-- `7 + 4 * ((VIRP_MAX_MESSAGE_SIZE + 2) / 3)`. -/
def observationContentMax : Nat := 87391

/-- A `chain_append` request, as far as it was copied out of the JSON. -/
structure IngressRequest where
  uid : UInt32
  sessionId : Field 64
  artifactType : Field 16
  artifactId : Field 128
  artifactHash : Field 65
  artifactContent : Field (observationContentMax + 1)
deriving DecidableEq

/-- What `parse_request` refuses: texts that are not canonical, a hash that is not one,
and a large body under a type that has no need of it. -/
def IngressRequest.parses (r : IngressRequest) : Bool :=
  canonicalStringOk r.sessionId.bytes && canonicalStringOk r.artifactType.bytes &&
    canonicalStringOk r.artifactId.bytes &&
    (r.artifactHash.bytes == [] || artifactHashOk r.artifactHash.bytes) &&
    (r.artifactContent.bytes.length ≤ artifactContentMax || typeIsObservation r.artifactType.bytes)

/-- The append it asks for. -/
def IngressRequest.call (r : IngressRequest) : AppendCall where
  sessionId := r.sessionId.bytes
  artifactType := r.artifactType.bytes
  artifactId := r.artifactId.bytes
  artifactHash := r.artifactHash.bytes
  artifactContent := if r.artifactContent.bytes = [] then none else some r.artifactContent.bytes

/-- What the daemon has when it serves a request: its chain, its policy of types, and the
keys it checks observations under. -/
structure IngressDaemon where
  handle : Handle
  chainEnabled : Bool
  /-- `socket_uid_chain_append_types` -/
  typePolicy : List (UInt32 × List (Field 16))
  okey : Bytes
  /-- the key before the rotation, and the end of its grace window -/
  prevOkey : Option (Bytes × UInt64)
  /-- id and key of the session, if it is active and its key is valid -/
  session : Option (Blob 16 × Bytes)
  obskey : Option Bytes

/-- `onode_uid_has_capp_policy`, `onode_uid_capp_type_allowed`: a uid without a policy is
not restricted. -/
def IngressDaemon.typeAllowed (D : IngressDaemon) (uid : UInt32) (t : Bytes) : Bool :=
  match D.typePolicy.find? (·.1 == uid) with
  | none => true
  | some (_, types) => types.any (·.bytes == t)

/-- What the daemon reads while it serves a request, and what fails. -/
structure IngressEnv where
  append : Env
  nowNs : UInt64
  commitsQueryFails : Bool

/-- The checks of the three wire formats: `virp_validate_message` (the type in the
header), `virp_parse_observation` (the kind of observation),
`virp_verify_observation_v2_signature` and `virp_verify_observation_ed25519`. -/
structure ObservationChecks where
  validateMessage : (key raw : Bytes) → Except VirpError UInt8
  parseObservation : (payload : Bytes) → Except VirpError UInt8
  verifyV2 : (key raw : Bytes) → Except VirpError Unit
  verifyEd25519 : (pub raw : Bytes) → Except VirpError Unit

/-- `virp_chain_artifact_bytes`. -/
def artifactBytes (content : Bytes) (outMax : Nat) : Except VirpError Bytes :=
  if (text "base64:").isPrefixOf content then
    match artifactB64Decode (content.drop 7) with
    | none => .error .invalidLength
    | some raw => if outMax < raw.length then .error .invalidLength else .ok raw
  else if outMax < content.length then .error .bufferTooSmall
  else .ok content

variable (C : Crypto) (V : ObservationChecks) (parse : Bytes → Option Json)

/-- A v1 message under the current key, or, until the grace window ends, the previous
one. -/
def validateRotated (D : IngressDaemon) (nowNs : UInt64) (raw : Bytes) : Except VirpError UInt8 :=
  match V.validateMessage D.okey raw, D.prevOkey with
  | .ok type, _ => .ok type
  | .error err, none => .error err
  | .error err, some (key, deadlineNs) =>
    if nowNs < deadlineNs then
      match V.validateMessage key raw with
      | .ok type => .ok type
      | .error _ => .error err
    else .error err

/-- A v1 observation: device output or a device error. -/
def verifyObservationV1 (D : IngressDaemon) (nowNs : UInt64) (raw : Bytes) :
    Except VirpError Unit := do
  let type ← validateRotated V D nowNs raw
  failIf (type != 0x01) .invalidType
  let kind ← V.parseObservation (raw.drop 56)
  failIf (kind != 0x07 && kind != 0x0F) .invalidType

/-- A v2 observation, of the session the daemon holds. -/
def verifyObservationV2 (D : IngressDaemon) (raw : Bytes) : Except VirpError Unit :=
  match D.session with
  | none => .error .sessionInvalid
  | some (id, key) => do
    failIf (88 ≤ raw.length && (raw.drop 28).take 16 != id.bytes) .sessionInvalid
    V.verifyV2 key raw

def chainAppendVerifyObservation (D : IngressDaemon) (nowNs : UInt64) (content : Bytes) :
    Except VirpError Unit := do
  let raw ← artifactBytes content 65536
  match raw.head? with
  | none => .error .invalidLength
  | some version =>
    if version = 1 then verifyObservationV1 V D nowNs raw
    else if version = 2 then verifyObservationV2 V D raw
    else if version = 3 then
      match D.obskey with
      | none => .error .keyNotLoaded
      | some pub => V.verifyEd25519 pub raw
    else .error .versionMismatch

/-- `fed_cite_kind_t`. -/
inductive FedCiteKind where
  | observation | error
deriving DecidableEq, Repr

/-- The types of the entries that back a citation. -/
def FedCiteKind.types : FedCiteKind → List Bytes
  | .observation => [text "observation", text "fed_observation"]
  | .error => [text "fed_error"]

/-- `fed_hash_member`: a member of the root, there exactly once, that is a hash. -/
def fedHashMember (root : Json) (name : Bytes) : Option Bytes :=
  match root with
  | .object members =>
    match members.filter (·.1 == name) with
    | [(_, .string s)] => if artifactHashOk (cstr s) then some (cstr s) else none
    | _ => none
  | _ => none

/-- What an outcome says it is backed by, and whether it claims an execution. -/
structure FedCitation where
  kind : FedCiteKind
  hash : Bytes
  executed : Bool
deriving DecidableEq

/-- `fed_outcome_citation`: exactly one of the two citations. -/
def fedOutcomeCitation (body : Bytes) : Option FedCitation :=
  match parse body with
  | none => none
  | some root =>
    let executed := match root.item (text "executed") with
      | some (.bool b) => b
      | _ => false
    match fedHashMember root (text "observation_sha256"), fedHashMember root (text "error_sha256") with
    | some h, none => some ⟨.observation, h, executed⟩
    | none, some h => some ⟨.error, h, executed⟩
    | _, _ => none

/-- `virp_chain_entry_commits_to`, `virp_chain_error_entry_commits_to`. -/
def citationCommitted (db : Db) (kind : FedCiteKind) (hash : Bytes) : Bool :=
  db.entries.rows.any (fun r => r.artifactHash == hash && kind.types.contains r.artifactType)

/-- A body is what the entry commits to, and a signed observation if it has to be; an
indirect type must have one. -/
def bodyGate (D : IngressDaemon) (env : IngressEnv) (r : IngressRequest) : Except VirpError Unit :=
  if r.artifactContent.bytes = [] then
    failIf (typeIsIndirect r.artifactType.bytes) .nullPtr
  else if typeIsIndirect r.artifactType.bytes then .ok ()
  else
    match artifactDigest C r.artifactContent.bytes with
    | none => .error .invalidLength
    | some digest => do
      failIf (digest != r.artifactHash.bytes) .chainBroken
      if typeIsObservation r.artifactType.bytes then
        chainAppendVerifyObservation V D env.nowNs r.artifactContent.bytes
      else .ok ()

/-- An outcome cites, once, an entry of the right type that is already there; one backed by
an error claims no execution. -/
def outcomeGate (db : Db) (env : IngressEnv) (r : IngressRequest) : Except VirpError Unit :=
  if r.artifactType.bytes = text "fed_outcome" then
    match (if r.artifactContent.bytes = [] then none
      else fedOutcomeCitation parse r.artifactContent.bytes) with
    | none => .error .actionForbidden
    | some cite => do
      failIf (cite.kind == .error && cite.executed) .actionForbidden
      failIf env.commitsQueryFails .chainDb
      failIf (!citationCommitted db cite.kind cite.hash) .actionForbidden
  else .ok ()

/-- The gates of `ONODE_ACTION_CHAIN_APPEND`, in their order, over the database the
connection sees. -/
def ingressGates (D : IngressDaemon) (env : IngressEnv) (db : Db) (r : IngressRequest) :
    Except VirpError Unit := do
  failIf (!r.parses) .invalidType
  failIf (!D.chainEnabled) .chainDb
  failIf (!D.typeAllowed r.uid r.artifactType.bytes) .actionForbidden
  failIf (r.sessionId.bytes == [] || r.artifactType.bytes == [] || r.artifactId.bytes == [] ||
    r.artifactHash.bytes == []) .nullPtr
  failIf (typeIsDaemonReserved r.artifactType.bytes) .invalidType
  failIf (!typeIsExternalAllowed r.artifactType.bytes) .invalidType
  bodyGate C V D env r
  outcomeGate parse db env r

/-- A request, with the daemon that serves it. -/
structure IngressCall where
  daemon : IngressDaemon
  env : IngressEnv
  request : IngressRequest

inductive IngressEvent where
  | submit (c : IngressCall)
  /-- the daemon opens its database again; an open transaction is lost -/
  | reopen

/-- What comes of a request: the row of an entry that landed, whatever the client was told, or
the refusal. -/
inductive IngressAnswer where
  | landed (row : EntryRow)
  | refused (err : VirpError)
  | reopened
deriving DecidableEq

/-- One request, or a restart. -/
def ingressStep (st : Store) : IngressEvent → Store × IngressAnswer
  | .submit c =>
    match ingressGates C V parse c.daemon c.env (st.txn.getD st.committed) c.request with
    | .error err => (st, .refused err)
    | .ok () =>
      let a := chainAppend C c.daemon.handle c.env.append st c.request.call
      match a.landed, a.result with
      | some e, _ =>
        (a.store, .landed (insertRow c.daemon.handle.signEnabled st.committed.nextRowid e))
      | none, .error err => (a.store, .refused err)
      | none, .ok _ => (a.store, .refused .chainDb)
  | .reopen => (⟨st.committed, none⟩, .reopened)

end Virp
