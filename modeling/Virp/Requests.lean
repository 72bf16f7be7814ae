import Virp.CJson
import Virp.Execute
import Virp.Handshake
import Virp.Ingress
import Virp.Library.Words

/-! # The daemon's requests

`parse_request` copies the fields of a JSON object into a record of fixed size.  Some of them are
checked on the way, and a request with a bad one is refused; the others are left empty if they do
not fit.  What an action makes of an empty field is its own affair: an `execute` without device and
command that names a proposal applies it, and a `session_hello` without a list offers the default.
-/
namespace Virp

open Words

/-- The bytes behind a backslash and a `u` spell a code point that is not zero. -/
def hexEscapeOk : Bytes → Bool
  | a :: b :: c :: d :: _ =>
    match Numeral.digitValue a, Numeral.digitValue b, Numeral.digitValue c,
      Numeral.digitValue d with
    | some a, some b, some c, some d => ((a * 16 + b) * 16 + c) * 16 + d ≠ 0
    | _, _, _, _ => false
  | _ => false

/-- The loop of `json_has_nul_escape`; `odd` says that an odd number of backslashes is just in
front. -/
def nulEscape : Bool → Bytes → Bool
  | _, [] => false
  | odd, c :: r =>
    (c == 0x75 && odd && !hexEscapeOk r) || nulEscape (c == 0x5C && !odd) r

def jsonHasNulEscape (json : Bytes) : Bool := nulEscape false json

/-- `json_extract_string_cjson`; where it returns false, it leaves an empty string. -/
def jsonExtractString (cap : Nat) (root : Json) (key : Bytes)
    (h : Nat.ble 1 cap = true := by exact Eq.refl true) : Option (Field cap) :=
  match root.item key with
  | some (.string s) => if cap ≤ (cstr s).length then none else some (.copy cap s h)
  | _ => none

/-- `strtoll(s, &end, 10)` with nothing left behind the number: spaces, a sign, digits; out of
range is an error. -/
def strtoll (s : Bytes) : Option Int :=
  let s := s.dropWhile (fun c => c == 0x20 || (0x09 ≤ c && c ≤ 0x0D))
  let negative := s.head? == some 0x2D
  let digits := if negative ∨ s.head? = some 0x2B then s.drop 1 else s
  match decimalValue digits with
  | none => none
  | some n =>
    let v : Int := if negative then -n else n
    if v < -2 ^ 63 ∨ 2 ^ 63 ≤ v then none else some v

/-- `json_extract_int64_cjson`: a decimal string, or a number of which no digit was lost. -/
def jsonExtractInt64 (root : Json) (key : Bytes) : Option Int :=
  match root.item key with
  | some (.string s) => if cstr s = [] then none else strtoll (cstr s)
  | some (.number (.finite q)) =>
    if ¬ (-2 ^ 53 < q ∧ q < 2 ^ 53) then none else if q.den ≠ 1 then none else some q.num
  | _ => none

def jsonExtractU64Bounded (max : Nat) (root : Json) (key : Bytes) : Option Int :=
  match jsonExtractInt64 root key with
  | some v => if v < 0 then none else if (max : Int) < v then none else some v
  | none => none

/-- `onode_action_t`. -/
inductive OnodeAction where
  | execute | health | heartbeat | list | listFleet | listSessions | signIntent | signOutcome
  | chainAppend | chainVerify | chainVerifySession | intentStore | intentGet | intentExecute
  | batchExecute | validateTurn | approvalChallenge | approvalSubmit | sessionHello | sessionBind
  | sessionClose | shutdown
deriving DecidableEq, Repr

def onodeActionNames : List (Bytes × OnodeAction) :=
  [(text "execute", .execute), (text "health", .health), (text "heartbeat", .heartbeat),
    (text "list_devices", .list), (text "list_fleet", .listFleet),
    (text "list_sessions", .listSessions), (text "sign_intent", .signIntent),
    (text "sign_outcome", .signOutcome), (text "chain_append", .chainAppend),
    (text "chain_verify", .chainVerify), (text "chain_verify_session", .chainVerifySession),
    (text "intent_store", .intentStore), (text "intent_get", .intentGet),
    (text "intent_execute", .intentExecute), (text "batch_execute", .batchExecute),
    (text "validate_turn", .validateTurn), (text "approval_challenge", .approvalChallenge),
    (text "approval_submit", .approvalSubmit), (text "session_hello", .sessionHello),
    (text "session_bind", .sessionBind), (text "session_close", .sessionClose),
    (text "shutdown", .shutdown)]

def onodeActionFromName (name : Bytes) : Option OnodeAction := onodeActionNames.lookup name

/-! ## The record -/

/-- `onode_request_t`. -/
structure OnodeRequest where
  action : OnodeAction
  device : Field 64
  command : Field 1024
  obsVersion : Int
  proposalId : Field 33
  signature : Field 129
  keyId : Field 33
  sessionId : Field 64
  artifactType : Field 16
  artifactId : Field 128
  artifactHash : Field 65
  artifactContent : Field (observationContentMax + 1)
  fromSequence : Int
  toSequence : Int
  limit : Int
  intentId : Field 128
  intentHash : Field 65
  confidence : Field 16
  expiresAtNs : Int
  maxCommands : Int
  intentJson : Field 4096
  proposedActions : Field 2048
  constraints : Field 512
  clientId : Field 64
  clientNonce : Field 17
  serverNonce : Field 17
  versions : Field 32
  algorithms : Field 32
  supportedChannels : Int

section
variable (root : Json)

/-- The action: required, and one of the table. -/
def requestAction : Option OnodeAction := do
  let name ← jsonExtractString 32 root (text "action")
  if name.bytes = [] then none else onodeActionFromName name.bytes

/-- A field whose extractor's result is not looked at. -/
def optionalField (cap : Nat) (key : Bytes)
    (h : Nat.ble 1 cap = true := by exact Eq.refl true) : Field cap :=
  (jsonExtractString cap root key h).getD (.empty cap h)

/-- A field that must be extracted if it is there. -/
def checkedField (cap : Nat) (key : Bytes)
    (h : Nat.ble 1 cap = true := by exact Eq.refl true) : Option (Field cap) :=
  if (root.item key).isSome then jsonExtractString cap root key h else some (.empty cap h)

/-- A reference of `n` lowercase hex digits, if it is there. -/
def hexField (n : Nat) (key : Bytes) : Option (Field (n + 1)) :=
  match root.item key with
  | none => some (.empty (n + 1) (Nat.ble_eq_true_of_le n.succ_pos))
  | some (.string s) =>
    if (cstr s).length ≠ n ∨ (cstr s).all isLowerHex = false then none
    else some (.copy (n + 1) s (Nat.ble_eq_true_of_le n.succ_pos))
  | some _ => none

/-- A number from zero to a bound, if it is there. -/
def boundedField (max : Nat) (key : Bytes) (default : Int) : Option Int :=
  match jsonExtractU64Bounded max root key with
  | some v => some v
  | none => if (root.item key).isSome then none else some default

/-- `obs_version`: 1 to 3, and 1 if it is not there. -/
def requestObsVersion : Option Int := do
  let v ← boundedField root 3 (text "obs_version") 1
  if v < 1 then none else some v

/-- A string that reaches the canonical form of an entry, if it is there. -/
def canonicalMember (key : Bytes) : Bool :=
  match root.item key with
  | none => true
  | some (.string s) => canonicalStringOk (cstr s)
  | some _ => false

/-- `artifact_hash`: a hash, if it is there. -/
def requestArtifactHash : Option (Field 65) := do
  let hash ← checkedField root 65 (text "artifact_hash")
  if (root.item (text "artifact_hash")).isSome ∧ artifactHashOk hash.bytes = false then none
  else some hash

/-- `parse_request`, from the root object on. -/
def requestFields : Option OnodeRequest := do
  let action ← requestAction root
  let proposalId ← hexField root 32 (text "proposal_id")
  let signature ← hexField root 128 (text "signature")
  let keyId ← hexField root 32 (text "key_id")
  let obsVersion ← requestObsVersion root
  if [text "session_id", text "artifact_type", text "artifact_id"].all (canonicalMember root) = false
  then none
  else do
    let sessionId ← checkedField root 64 (text "session_id")
    let artifactType ← checkedField root 16 (text "artifact_type")
    let artifactId ← checkedField root 128 (text "artifact_id")
    let artifactHash ← requestArtifactHash root
    let artifactContent ← checkedField root (observationContentMax + 1) (text "artifact_content")
    if artifactContentMax < artifactContent.bytes.length ∧
        typeIsObservation artifactType.bytes = false then none
    else do
      let fromSequence ← boundedField root (2 ^ 63 - 1) (text "from_sequence") 0
      let toSequence ← boundedField root (2 ^ 63 - 1) (text "to_sequence") 0
      let limit ← boundedField root 200 (text "limit") 0
      let expiresAtNs ← boundedField root (2 ^ 63 - 1) (text "expires_at_ns") 0
      let maxCommands ← boundedField root (2 ^ 31 - 1) (text "max_commands") 0
      let supportedChannels ← boundedField root (2 ^ 32 - 1) (text "supported_channels") 0
      some
        { action, obsVersion, proposalId, signature, keyId, sessionId, artifactType, artifactId,
          artifactHash, artifactContent, fromSequence, toSequence, limit, expiresAtNs, maxCommands,
          supportedChannels
          device := optionalField root 64 (text "device")
          command := optionalField root 1024 (text "command")
          intentId := optionalField root 128 (text "intent_id")
          intentHash := optionalField root 65 (text "intent_hash")
          confidence := optionalField root 16 (text "confidence")
          intentJson := optionalField root 4096 (text "intent_json")
          proposedActions := optionalField root 2048 (text "proposed_actions")
          constraints := optionalField root 512 (text "constraints")
          clientId := optionalField root 64 (text "client_id")
          clientNonce := optionalField root 17 (text "client_nonce")
          serverNonce := optionalField root 17 (text "server_nonce")
          versions := optionalField root 32 (text "versions")
          algorithms := optionalField root 32 (text "algorithms") }

end

/-- `parse_request`, of a C string. -/
def parseRequest (L : Libc) (json : Bytes) : Option OnodeRequest :=
  if jsonHasNulEscape (cstr json) then none
  else match cjsonParse L json with
  | some (.object members) => requestFields (.object members)
  | _ => none

/-- The `execute` action of `handle_client`: an apply, a command, or an error. -/
def executeAction (req : OnodeRequest) (uid : UInt32) : Except VirpError ClientRequest :=
  if req.device.bytes = [] ∧ req.command.bytes = [] ∧ req.proposalId.bytes ≠ [] then
    .ok (.apply req.proposalId req.obsVersion uid)
  else if req.device.bytes = [] ∨ req.command.bytes = [] then .error .nullPtr
  else .ok (.execute ⟨req.device, req.command, req.proposalId, req.obsVersion, uid⟩)

/-- `(uint8_t)atoi(tok)`: spaces, a sign, the digits that follow; out of range it is the nearest
`long`. -/
def atoiByte (tok : Bytes) : UInt8 :=
  let s := tok.dropWhile (fun c => c == 0x20 || (0x09 ≤ c && c ≤ 0x0D))
  let negative := s.head? == some 0x2D
  let digits := if negative ∨ s.head? = some 0x2B then s.drop 1 else s
  let n := (decimalValue (digits.takeWhile (fun c => 0x30 ≤ c && c ≤ 0x39))).getD 0
  let v : Int := if negative then max (-n) (-2 ^ 63) else min n (2 ^ 63 - 1)
  UInt8.ofNat (v % 256).toNat

/-- The numbers between commas, eight of them at most. -/
def numberList (s : Bytes) : List UInt8 := ((words 0x2C s).map atoiByte).take 8

/-- A list of a HELLO: the default if the client sent none. -/
def offeredList (s : Bytes) (default : List UInt8) : List UInt8 :=
  if s = [] then default else numberList s

/-- Bytes at the start of a zeroed buffer. -/
def padded (n : Nat) (b : Bytes) : Blob n where
  bytes := b.take n ++ List.replicate (n - (b.take n).length) 0
  length_eq := by
    have := List.length_take_le n b
    simp only [List.length_append, List.length_replicate]
    omega

/-- The loop of `virp_hex_decode`: the bytes it has written when it stops. -/
def hexPairs : Bytes → Bytes
  | hi :: lo :: rest =>
    match hexval hi, hexval lo with
    | some h, some l => (16 * h + l).toUInt8 :: hexPairs rest
    | _, _ => []
  | _ => []

/-- What `virp_hex_decode` leaves in a zeroed buffer of `n` bytes. -/
def hexInto (n : Nat) (hex : Bytes) : Blob n :=
  padded n (if hex.length % 2 ≠ 0 ∨ n < hex.length / 2 then [] else hexPairs hex)

/-- The HELLO that the `session_hello` action builds. -/
def sessionHelloAction (req : OnodeRequest) (now : UInt64) : Except VirpError SessionHello :=
  if req.clientId.bytes = [] then .error .nullPtr
  else
    let versions := offeredList req.versions.bytes [2, 1]
    let algorithms := offeredList req.algorithms.bytes [1]
    .ok
      { msgType := 0x40
        clientId := idBlob req.clientId.bytes
        versions := padded 8 versions
        versionCount := .ofNat versions.length
        algorithms := padded 8 algorithms
        algorithmCount := .ofNat algorithms.length
        supportedChannels := .ofNat req.supportedChannels.toNat
        clientNonce := hexInto 8 req.clientNonce.bytes
        timestampNs := now }

end Virp
