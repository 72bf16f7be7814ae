import Virp.Crypto
import Virp.Library.Machine
import Virp.Python

/-! # Retention records

The `retention` command of the camera program removes aged files of one directory.  A pass
scans the directory and writes a journal: the files in chunks, each with the digests and
lengths read at the scan.  Then, chunk by chunk, it builds and signs a `camera_retention/1`
record, delivers it, unlinks the chunk's files by name and shortens the journal.  A pass that
finds a journal resumes it and scans nothing.

A record is shipped to the spool, where the submitter checks it later, or given to
`submit_record_only` at once.  Both name the job after the camera, and form the artifact id from
the record and that name.  The staging copy in the outbox is one of the writes by others that a
run may contain.
-/
namespace Virp

open List

/-! ## The record and its check -/

def schemaRetention : PyStr := "camera_retention/1".toList

/-- `RETENTION_TIERS`. -/
inductive RetentionTier where
  | captureHost
  | spool
deriving DecidableEq

/-- The tier as the record writes it. -/
def RetentionTier.name : RetentionTier → PyStr
  | captureHost => "capture-host".toList
  | spool => "spool".toList

def retentionTiers : List PyStr := [RetentionTier.captureHost.name, RetentionTier.spool.name]

def retentionFields : List PyStr :=
  ["schema".toList, "camera_id".toList, "tier".toList, "policy_days".toList,
    "deleted_at_utc_ns".toList, "removed".toList, "removed_count".toList,
    "removed_bytes".toList, "producer_key_id".toList, "producer_sig".toList]

def retentionItemFields : List PyStr := ["sha256".toList, "kind".toList, "byte_len".toList]

/-- Suffix of a file, and what the record calls it. -/
def retentionKinds : List (PyStr × PyStr) :=
  [("validation.txt".toList, "validator_output".toList), ("handoff.json".toList, "handoff".toList),
    ("leaf.der".toList, "leaf_der".toList), ("body".toList, "record_body".toList),
    ("done".toList, "marker".toList), ("mp4".toList, "segment".toList)]

def retentionKindOther : PyStr := "other".toList

def retentionKindNames : List PyStr := retentionKinds.map (·.2) ++ [retentionKindOther]

def retentionKind (filename : PyStr) : PyStr :=
  match retentionKinds.find? (fun k => ('.' :: k.1).isSuffixOf filename) with
  | some k => k.2
  | none => retentionKindOther

theorem retentionKind_mem (filename : PyStr) : retentionKind filename ∈ retentionKindNames := by
  unfold retentionKind retentionKindNames
  split
  · rename_i k hk
    exact mem_append_left _ (mem_map_of_mem (mem_of_find?_eq_some hk))
  · exact mem_append_right _ (mem_singleton_self _)

/-- One entry of `removed`. -/
structure RetentionItem where
  sha256 : PyStr
  kind : PyStr
  byteLen : Nat
deriving DecidableEq

/-- The entry as the record writes it. -/
def RetentionItem.value (i : RetentionItem) : PyValue :=
  .dict [("sha256".toList, .str i.sha256), ("kind".toList, .str i.kind),
    ("byte_len".toList, .int i.byteLen)]

section Check

variable (J : PyJson)

/-- The body of the loop of `retention_defect` over `removed`: why `removed[i]` is refused, or
its length. -/
def retentionItemDefect (i : Nat) (item : PyValue) : Except PyStr Int :=
  let place := "removed[".toList ++ decimalStr i ++ "]".toList
  if item.hasFields retentionItemFields = false then
    .error (place ++ " is not the exact \x7bsha256, kind, byte_len\x7d triple".toList)
  else match item.get "sha256".toList, item.get "kind".toList, item.get "byte_len".toList with
    | some sha, some kind, some byteLen =>
      if sha.asStr.any (isHexOf 64) = false then
        .error (place ++ ".sha256 is not 64 lowercase hex chars".toList)
      else if retentionKindNames.any kind.isStr = false then
        .error (place ++ ".kind ".toList ++ J.repr kind ++ " is not a known kind".toList)
      else match byteLen.asInt with
        | some n =>
          if 0 ≤ n then .ok n
          else .error (place ++ ".byte_len is not a non-negative integer".toList)
        | none => .error (place ++ ".byte_len is not a non-negative integer".toList)
    | _, _, _ => .error place

/-- The loop: the sum of the lengths. -/
def retentionItemsDefect : Nat → Int → List PyValue → Except PyStr Int
  | _, total, [] => .ok total
  | i, total, item :: items =>
    match retentionItemDefect J i item with
    | .ok n => retentionItemsDefect (i + 1) (total + n) items
    | .error e => .error e

/-- `retention_defect`: why this value is not a `camera_retention/1` body. -/
def retentionDefect (body : PyValue) : Option PyStr :=
  match body with
  | .dict items =>
    let field key := ((PyValue.dict items).get key).getD .none
    if (field "schema".toList).isStr schemaRetention = false then
      some ("schema is ".toList ++ J.repr (field "schema".toList) ++ ", not ".toList ++
        schemaRetention)
    else if (PyValue.dict items).hasFields retentionFields = false then
      some ("field set is not the ".toList ++ decimalStr retentionFields.length ++
        " fields ".toList ++ schemaRetention ++ " defines".toList)
    else if retentionTiers.any (field "tier".toList).isStr = false then
      some ("tier ".toList ++ J.repr (field "tier".toList) ++ " is not one of ".toList ++
        ", ".toList.intercalate retentionTiers)
    else if (field "policy_days".toList).asInt.any (0 < ·) = false then
      some "policy_days is not a positive integer".toList
    else if (field "deleted_at_utc_ns".toList).asInt.any (0 < ·) = false then
      some "deleted_at_utc_ns is not a positive integer".toList
    else if (field "camera_id".toList).asStr.any (· ≠ []) = false then
      some "camera_id is empty".toList
    else match field "removed".toList with
      | .list (first :: removed) =>
        match retentionItemsDefect J 0 0 (first :: removed) with
        | .error e => some e
        | .ok total =>
          if (field "removed_count".toList).isInt (removed.length + 1) = false then
            some ("removed_count ".toList ++ J.repr (field "removed_count".toList) ++
              " != len(removed) ".toList ++ decimalStr (removed.length + 1) ++
              " — the count is a claim, and it is wrong".toList)
          else if (field "removed_bytes".toList).isInt total = false then
            some ("removed_bytes ".toList ++ J.repr (field "removed_bytes".toList) ++
              " != sum of byte_len ".toList ++ intStr total)
          else none
      | _ => some ("removed is not a non-empty list — an empty batch " ++
          "writes no record at all").toList
  | _ => some "retention body is not an object".toList

end Check

/-- What a record declares: the arguments of `build_retention_body`. -/
structure RetentionRecord where
  cameraId : PyStr
  tier : RetentionTier
  policyDays : Int
  deletedAtNs : Nat
  removed : List RetentionItem
deriving DecidableEq

/-- The fields of `build_retention_body`. -/
def RetentionRecord.fields (r : RetentionRecord) (keyId : PyStr) : List (PyStr × PyValue) :=
  [("schema".toList, .str schemaRetention), ("camera_id".toList, .str r.cameraId),
    ("tier".toList, .str r.tier.name), ("policy_days".toList, .int r.policyDays),
    ("deleted_at_utc_ns".toList, .int r.deletedAtNs),
    ("removed".toList, .list (r.removed.map RetentionItem.value)),
    ("removed_count".toList, .int r.removed.length),
    ("removed_bytes".toList, .int ((r.removed.map (·.byteLen)).sum : Nat)),
    ("producer_key_id".toList, .str keyId)]

/-- The producer's key, and the id it is known by. -/
structure ProducerKey where
  seed : Bytes
  keyId : PyStr

section Sign

variable (C : Crypto) (J : PyJson) (K : ProducerKey)

/-- `producer_sign`: the body with its signature. -/
def producerSign (body : List (PyStr × PyValue)) : PyValue :=
  let payload := J.canonicalBytes (.dict body)
  .dict (body ++ [("producer_sig".toList, .str (hexStr (C.sign K.seed payload).bytes))])

/-- The signed body of a record. -/
def RetentionRecord.signed (r : RetentionRecord) : PyValue := producerSign C J K (r.fields K.keyId)

/-- The bytes of the signed body. -/
def RetentionRecord.bytes (r : RetentionRecord) : Bytes := J.canonicalBytes (r.signed C J K)

end Sign

def spoolCameraMax : Nat := 64

def spoolCameraOk (c : Char) : Bool := c.isAlphanum || c == '_' || c == '-'

/-- `spool_camera_token`: the camera id as it may appear in a file name. -/
def spoolCameraToken (cameraId : PyStr) : Option PyStr :=
  match cameraId with
  | [] => none
  | c :: cs =>
    if spoolCameraMax < (c :: cs).length ∨ c.isAlphanum = false ∨
        (c :: cs).all spoolCameraOk = false then none
    else some (c :: cs)

/-- `_stage_record`: the name of the job that carries a record. -/
def retentionJobName (cameraId : PyStr) (deletedAtNs chunk : Nat) : Option PyStr :=
  (spoolCameraToken cameraId).map fun token =>
    ['.'].intercalate [token, "retention".toList, decimalStr deletedAtNs, decimalStr chunk]

/-- The chunk number in a job's name, `\.retention\.\d+\.(\d+)$`; 0 if there is none. -/
def jobChunk (name : PyStr) : Nat :=
  match (name.splitOn '.').reverse with
  | chunk :: at_ :: word :: _ :: _ =>
    if word = "retention".toList ∧ at_ ≠ [] ∧ at_.all Char.isDigit = true ∧
        chunk ≠ [] ∧ chunk.all Char.isDigit = true
    then Nat.ofDigitChars 10 chunk 0
    else 0
  | _ => 0

def retentionArtifactId (cameraId tier : PyStr) (deletedAtNs : Int) (chunk : Nat) : PyStr :=
  [':'].intercalate
    ["camret".toList, cameraId, tier, intStr deletedAtNs, decimalStr chunk]

def artifactLimit : Nat := 8192

/-- `submit_record_only`: the artifact id a job is appended under, or why it is refused (what
`json.loads` says of a text that does not parse is left out).  A record that is on the chain
already is not appended again. -/
def submitRecordOnly (J : PyJson) (name : PyStr) (body : Bytes) : Except PyStr PyStr :=
  match J.loadsBytes body with
  | none => .error name
  | some v =>
    if ((v.get "schema".toList).any (·.isStr schemaRetention)) = false then
      let got := match v with
        | .dict _ => (v.get "schema".toList).getD .none
        | _ => v
      .error (name ++ ": record-only submit accepts ".toList ++ schemaRetention ++
        " bodies only, got ".toList ++ J.repr got)
    else match retentionDefect J v with
      | some defect => .error (name ++ ": ".toList ++ defect)
      | none =>
        match v.get "camera_id".toList, v.get "tier".toList, v.get "deleted_at_utc_ns".toList with
        | some (.str cameraId), some (.str tier), some (.int deletedAtNs) =>
          .ok (retentionArtifactId cameraId tier deletedAtNs (jobChunk name))
        | _, _, _ => .error name

/-! ## The scan -/

/-- A regular file. -/
structure StoredFile where
  data : Bytes
  mtimeNs : Int
deriving DecidableEq

/-- The files, under their paths. -/
abbrev FileTree := PyStr → Option StoredFile

/-- The options of a pass. -/
structure RetentionConfig where
  dir : PyStr
  tier : RetentionTier
  policyDays : Int
  cameraId : Option PyStr
  dryRun : Bool

/-- `os.path.join`, for a name without `/`. -/
def joinPath (dir n : PyStr) : PyStr := if dir.getLast? = some '/' then dir ++ n else dir ++ '/' :: n

def basename (path : PyStr) : PyStr := (path.reverse.takeWhile (· ≠ '/')).reverse

/-- One chunk of the journal. -/
structure RetentionChunk where
  cameraId : PyStr
  deletedAtNs : Nat
  chunk : Nat
  files : List PyStr
  removed : List RetentionItem
deriving DecidableEq

/-- `retention-journal.json`. -/
structure RetentionJournal where
  tier : RetentionTier
  policyDays : Int
  chunks : List RetentionChunk
deriving DecidableEq

section Scan

variable (C : Crypto) (J : PyJson)

/-- `_camera_for_token`: the camera named by the first body of that token that parses.  A body
that is not an object raises an `AttributeError`, which nothing catches. -/
def cameraForToken (files : FileTree) (dir token : PyStr) : List PyStr → Except Unit (Option PyStr)
  | [] => .ok none
  | n :: names =>
    if (token ++ ['.']).isPrefixOf n && ".body".toList.isSuffixOf n then
      match (files (joinPath dir n)).bind (fun f => J.loadsBytes f.data) with
      | none => cameraForToken files dir token names
      | some (.dict items) =>
        match (PyValue.dict items).get "camera_id".toList with
        | some (.str (c :: cs)) => .ok (some (c :: cs))
        | _ => cameraForToken files dir token names
      | some _ => .error ()
    else cameraForToken files dir token names

/-- The camera a group of files is declared for. -/
def retentionCamera (cfg : RetentionConfig) (files : FileTree) (names : List PyStr)
    (token : PyStr) : Except Unit PyStr :=
  match cfg.cameraId with
  | some (c :: cs) => .ok (c :: cs)
  | _ => (cameraForToken J files cfg.dir token (sortedStrs names)).map (·.getD token)

/-- What the record says of a file. -/
def retentionItem (path : PyStr) (data : Bytes) : RetentionItem :=
  ⟨hexStr (C.sha256 data).bytes, retentionKind (basename path), data.length⟩

/-- The margin `_retention_chunks` leaves for the other fields. -/
def retentionMargin : Nat := 600

/-- `_retention_chunks`, with the chunk being filled and its length so far. -/
def retentionChunksFrom (limit : Nat) : List (PyStr × RetentionItem) → Nat →
    List (PyStr × RetentionItem) → List (List (PyStr × RetentionItem))
  | cur, _, [] => if cur = [] then [] else [cur]
  | cur, curLen, x :: rest =>
    let itemLen := (J.canonicalBytes x.2.value).length + 1
    if cur ≠ [] ∧ limit - retentionMargin < curLen + itemLen then
      cur :: retentionChunksFrom limit [x] itemLen rest
    else retentionChunksFrom limit (cur ++ [x]) (curLen + itemLen) rest

def retentionChunks (removed : List (PyStr × RetentionItem)) (limit : Nat) :
    List (List (PyStr × RetentionItem)) :=
  retentionChunksFrom J limit [] 0 removed

/-- The aged files with their tokens, by name. -/
def agedFiles (cfg : RetentionConfig) (files : FileTree) (nowNs : Nat) (names : List PyStr) :
    List (PyStr × PyStr × Bytes) :=
  (sortedStrs names).filterMap fun n =>
    (files (joinPath cfg.dir n)).bind fun f =>
      if nowNs - cfg.policyDays * 86400 * 10 ^ 9 ≤ f.mtimeNs then none
      else some (n.takeWhile (· ≠ '.'), joinPath cfg.dir n, f.data)

/-- The keys of `groups`, sorted. -/
def retentionTokens (cfg : RetentionConfig) (files : FileTree) (nowNs : Nat) (names : List PyStr) :
    List PyStr :=
  sortedStrs ((agedFiles cfg files nowNs names).map (·.1)).dedup

/-- The files of one token with what is said of them.  They are in the order of their paths,
which is that of their names. -/
def groupFiles (cfg : RetentionConfig) (files : FileTree) (nowNs : Nat) (names : List PyStr)
    (token : PyStr) : List (PyStr × RetentionItem) :=
  ((agedFiles cfg files nowNs names).filter (·.1 = token)).map fun f =>
    (f.2.1, retentionItem C f.2.1 f.2.2)

/-- The chunks of one token. -/
def groupChunks (cfg : RetentionConfig) (files : FileTree) (nowNs : Nat) (names : List PyStr)
    (token cameraId : PyStr) : List RetentionChunk :=
  (retentionChunks J (groupFiles C cfg files nowNs names token) artifactLimit).mapIdx fun i chunk =>
    ⟨cameraId, nowNs, i, chunk.map (·.1), chunk.map (·.2)⟩

/-- The tokens of the scan, each with its camera. -/
def scanCameras (cfg : RetentionConfig) (files : FileTree) (nowNs : Nat) (names : List PyStr) :
    Except Unit (List (PyStr × PyStr)) :=
  (retentionTokens cfg files nowNs names).mapM fun token =>
    (retentionCamera J cfg files names token).map fun cameraId => (token, cameraId)

/-- The chunks of the scan. -/
def scanChunks (cfg : RetentionConfig) (files : FileTree) (nowNs : Nat) (names : List PyStr)
    (cameras : List (PyStr × PyStr)) : List RetentionChunk :=
  cameras.flatMap fun tc => groupChunks C J cfg files nowNs names tc.1 tc.2

end Scan

/-! ## The pass -/

/-- A job that reached the spool or the daemon: its name, and the record whose bytes it
carries. -/
structure RetentionJob where
  name : PyStr
  record : RetentionRecord
deriving DecidableEq

/-- How a delivery goes: it succeeds, or it fails although the job may have arrived. -/
inductive Delivery where
  | accepted
  | failed (reached : Bool)
deriving DecidableEq

/-- A pass at work: how it delivers, and the files it still has to unlink for the chunk it has
just delivered. -/
structure RetentionPass where
  channel : RetentionTier
  unlinking : Option (List PyStr)
deriving DecidableEq

/-- The files, the journal file, and the pass at work.  A pass holds no journal of its own: it
writes the file whenever it changes it. -/
structure RetentionState where
  files : FileTree
  journal : Option RetentionJournal
  pass : Option RetentionPass

inductive RetentionEvent where
  /-- someone else writes a file or removes it -/
  | write (path : PyStr) (file : Option StoredFile)
  /-- a pass begins; `names` is what `os.listdir` returns -/
  | start (cfg : RetentionConfig) (nowNs : Nat) (names : List PyStr)
  /-- the pass takes its next step -/
  | next (delivery : Delivery)
  | crash

/-- What an event does that can be seen from outside. -/
inductive RetentionAct where
  | nothing
  /-- a journal was written for these cameras -/
  | scanned (tier : RetentionTier) (nowNs : Nat) (cameras : List PyStr)
  | delivered (job : RetentionJob)
  | removed (path : PyStr) (data : Bytes)
  /-- the first chunk was taken off the journal -/
  | saved
deriving DecidableEq

namespace RetentionState

variable (C : Crypto) (J : PyJson) (K : ProducerKey)

/-- No pass, no journal. -/
def init (files : FileTree) : RetentionState := ⟨files, none, none⟩

variable (s : RetentionState)

/-- Point update of the files. -/
def setFile (path : PyStr) (file : Option StoredFile) : RetentionState :=
  { s with files := fun p => if p = path then file else s.files p }

/-- The record of a chunk. -/
def recordOf (j : RetentionJournal) (c : RetentionChunk) : RetentionRecord :=
  ⟨c.cameraId, j.tier, j.policyDays, c.deletedAtNs, c.removed⟩

/-- The job of a chunk. -/
def jobOf (j : RetentionJournal) (c : RetentionChunk) : Option RetentionJob :=
  (retentionJobName c.cameraId c.deletedAtNs c.chunk).map fun name => ⟨name, recordOf j c⟩

/-- The checks between the building of a record and its leaving the host: its size, the
camera's name, and on the host of the daemon those of `submit_record_only`. -/
def outgoing (channel : RetentionTier) (j : RetentionJournal) (c : RetentionChunk) :
    Option RetentionJob :=
  if artifactLimit ≤ ((recordOf j c).bytes C J K).length then none
  else (jobOf j c).filter fun job =>
    match channel with
    | .captureHost => true
    | .spool => (submitRecordOnly J job.name ((recordOf j c).bytes C J K)).isOk

/-- A pass begins. -/
def start (cfg : RetentionConfig) (nowNs : Nat) (names : List PyStr) :
    RetentionState × RetentionAct :=
  match s.pass, s.journal with
  | some _, _ => (s, .nothing)
  | none, some _ =>
    if cfg.dryRun then (s, .nothing) else ({ s with pass := some ⟨cfg.tier, none⟩ }, .nothing)
  | none, none =>
    match scanCameras J cfg s.files nowNs names with
    | .error _ => (s, .nothing)
    | .ok cameras =>
      if cameras = [] ∨ cfg.dryRun then (s, .nothing)
      else
        let chunks := scanChunks C J cfg s.files nowNs names cameras
        ({ s with
            journal := some ⟨cfg.tier, cfg.policyDays, chunks⟩
            pass := some ⟨cfg.tier, none⟩ },
          .scanned cfg.tier nowNs (cameras.map (·.2)))

/-- The delivery of the first chunk. -/
def deliver (pass : RetentionPass) (j : RetentionJournal) (c : RetentionChunk) (delivery : Delivery) :
    RetentionState × RetentionAct :=
  match outgoing C J K pass.channel j c with
  | none => ({ s with pass := none }, .nothing)
  | some job =>
    match delivery with
    | .accepted => ({ s with pass := some { pass with unlinking := some c.files } }, .delivered job)
    | .failed true => ({ s with pass := none }, .delivered job)
    | .failed false => ({ s with pass := none }, .nothing)

/-- One file of the chunk is unlinked; it may be gone. -/
def unlink (pass : RetentionPass) (path : PyStr) (rest : List PyStr) :
    RetentionState × RetentionAct :=
  let s' := { s.setFile path none with pass := some { pass with unlinking := some rest } }
  match s.files path with
  | some f => (s', .removed path f.data)
  | none => (s', .nothing)

/-- The next step of the pass at work. -/
def next (delivery : Delivery) : RetentionState × RetentionAct :=
  match s.pass, s.journal with
  | some pass, some j =>
    match pass.unlinking, j.chunks with
    | none, [] => ({ s with journal := none, pass := none }, .nothing)
    | none, c :: _ => s.deliver C J K pass j c delivery
    | some (p :: ps), _ => s.unlink pass p ps
    | some [], chunks =>
      let j' := { j with chunks := chunks.tail }
      ({ s with journal := some j', pass := some { pass with unlinking := none } }, .saved)
  | _, _ => (s, .nothing)

/-- One event. -/
def step : RetentionEvent → RetentionState × RetentionAct
  | .write path file => (s.setFile path file, .nothing)
  | .start cfg nowNs names => s.start C J cfg nowNs names
  | .next delivery => s.next C J K delivery
  | .crash => ({ s with pass := none }, .nothing)

end RetentionState

end Virp
