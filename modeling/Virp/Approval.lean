import Virp.Gate
import Virp.ChainEvidence

/-! # Approval records

A command the gate blocks can be approved by a human.  The approval store keeps three
kinds of text file (proposals, pending challenges, approvals) and `consumed.list`.
This module is about the texts: how a record is written down and read back, what the
approver signs, and what `virp_approval_verify` checks.  The programs that read and
write the files are in `Virp.ApprovalFlow`.
-/
namespace Virp

open Decimal

/-! ## The records -/

/-- `virp_proposal_rec_t`. -/
structure ProposalRec where
  proposalId : Field 33
  sessionId : Field 64
  device : Field 64
  deviceNodeId : UInt32
  command : Field 1024
  commandHash : Field 65
  proposer : Field 64
  timestampNs : UInt64
  tier : Field 16
  chainEntryHash : Field 65
deriving DecidableEq

/-- `virp_approval_rec_t`. -/
structure ApprovalRec where
  proposalId : Field 33
  commandHash : Field 65
  device : Field 64
  deviceNodeId : UInt32
  approvedAtNs : UInt64
  ttlSeconds : UInt32
  approverKeyId : Field 33
  operator : Field 64
  sig : Signature
  chainEntryHash : Field 65
deriving DecidableEq

/-- `virp_approval_challenge_t`. -/
structure Challenge where
  proposalId : Field 33
  canonical : Bytes
  device : Field 64
  command : Field 1024
  commandHash : Field 65
  tier : Field 16
  deviceNodeId : UInt32
  approvedAtNs : UInt64
  ttlSeconds : UInt32
deriving DecidableEq

/-- The key of an approver, with its algorithm. -/
inductive ApproverKey where
  | ed25519 (pub : Bytes)
  | ecdsaP256 (spki : Bytes)
deriving DecidableEq

/-- `virp_approver_t`. -/
structure Approver where
  keyId : Field 33
  key : ApproverKey
  operator : Field 64
  enabled : Bool
deriving DecidableEq

def approverRegistryFindAny (reg : List Approver) (keyId : Bytes) : Option Approver :=
  reg.find? (fun e => e.keyId.bytes.map toLower == keyId.map toLower)

def approverVerify (C : Crypto) (e : Approver) (data : Bytes) (sig : Signature) : Bool :=
  match e.key with
  | .ed25519 pub => C.verify pub data sig
  | .ecdsaP256 spki => C.ecdsaVerify spki data sig

/-- `proposal_id_valid`: 16 bytes in lowercase hex. -/
def proposalIdValid (id : Bytes) : Bool := id.length == 32 && id.all isLowerHex

/-- `virp_approval_build_canonical`: the 72 bytes the approver signs. -/
def approvalBuildCanonical (proposalId commandHash : Bytes) (deviceNodeId : UInt32)
    (approvedAtNs : UInt64) (ttlSeconds : UInt32) : Option Bytes :=
  if proposalIdValid proposalId = false ∨ artifactHashOk commandHash = false then none
  else match hexDecode proposalId, hexDecode commandHash with
  | some id, some hash => some (text "VAP1" ++ id ++ hash ++ putBe64 deviceNodeId.toNat ++
      putBe64 approvedAtNs.toNat ++ putBe32 ttlSeconds.toNat)
  | _, _ => none

/-- A natural number as a JSON number. -/
def jsonNat (n : Nat) : Json := .number (.finite n)

/-- `(double)` of an unsigned number: the nearest multiple of the spacing of doubles
at its magnitude, ties to even. -/
def doubleOfNat (n : Nat) : Nat :=
  let unit := 2 ^ (Nat.log2 n - 52)
  let down := n / unit * unit
  let rest := n - down
  if 2 * rest < unit ∨ (2 * rest = unit ∧ n / unit % 2 = 0) then down else down + unit

/-- `jadd_u64str`: a number as a decimal string. -/
def jsonU64Str (n : UInt64) : Json := .string (unsigned n.toNat)

/-- `jget_u64`: a number that is not negative, truncated.  The conversion of a number
beyond 64 bits is undefined in C; here it saturates, which every caller refuses. -/
def jgetU64 (o : Json) (key : Bytes) : Option Nat :=
  match o.num key with
  | some (.finite q) => if q < 0 then none else some (min (q.num / q.den).toNat (2 ^ 64 - 1))
  | some (.infinite negative) => if negative then none else some (2 ^ 64 - 1)
  | none => none

/-- The digits of `strtoull`, all of them. -/
def decimalValue (s : Bytes) : Option Nat :=
  if s = [] ∨ s.any (fun c => c < 0x30 || 0x39 < c) then none
  else some (s.foldl (fun x c => x * 10 + (c.toNat - 48)) 0)

/-- `strtoull(s, &end, 10)` with nothing left behind the number: spaces, a sign,
digits; out of range is an error, and a minus sign negates modulo 2^64. -/
def strtoull (s : Bytes) : Option UInt64 :=
  let s := s.dropWhile (fun c => c == 0x20 || (0x09 ≤ c && c ≤ 0x0D))
  let negative := s.head? == some 0x2D
  let digits := if negative ∨ s.head? = some 0x2B then s.drop 1 else s
  match decimalValue digits with
  | none => none
  | some n => if 2 ^ 64 ≤ n then none else some (if negative then 0 - n.toUInt64 else n.toUInt64)

def jgetU64Str (o : Json) (key : Bytes) : Option UInt64 :=
  match o.item key with
  | some (.string s) => if cstr s = [] then none else strtoull (cstr s)
  | _ => none

def jgetStr (cap : Nat) (o : Json) (key : Bytes)
    (h : Nat.ble 1 cap = true := by exact Eq.refl true) : Option (Field cap) :=
  match o.item key with
  | some (.string s) => some (.copy cap s h)
  | _ => none

/-! ## Bodies and files -/

def proposalJson (p : ProposalRec) : Json :=
  .object [(text "proposal_id", .string p.proposalId.bytes),
    (text "session_id", .string p.sessionId.bytes), (text "device", .string p.device.bytes),
    (text "device_node_id", jsonNat p.deviceNodeId.toNat),
    (text "command", .string p.command.bytes), (text "command_hash", .string p.commandHash.bytes),
    (text "proposer", .string p.proposer.bytes), (text "timestamp_ns", jsonU64Str p.timestampNs),
    (text "tier", .string p.tier.bytes)]

def approvalJson (a : ApprovalRec) : Json :=
  .object [(text "proposal_id", .string a.proposalId.bytes),
    (text "command_hash", .string a.commandHash.bytes), (text "device", .string a.device.bytes),
    (text "device_node_id", jsonNat a.deviceNodeId.toNat),
    (text "approved_at_ns", jsonU64Str a.approvedAtNs),
    (text "ttl_seconds", jsonNat a.ttlSeconds.toNat),
    (text "approver_key_id", .string a.approverKeyId.bytes),
    (text "operator", .string a.operator.bytes), (text "body_version", jsonNat 2),
    (text "approver_signature", .string (hexEncode a.sig.bytes))]

/-- The body of `challenge_write`. -/
def challengeJson (c : Challenge) : Json :=
  .object [(text "proposal_id", .string c.proposalId.bytes),
    (text "command_hash", .string c.commandHash.bytes), (text "device", .string c.device.bytes),
    (text "device_node_id", jsonNat c.deviceNodeId.toNat),
    (text "approved_at_ns", jsonU64Str c.approvedAtNs),
    (text "ttl_seconds", jsonNat c.ttlSeconds.toNat)]

/-- A chain entry hash in a record file: a dash where there is none. -/
def hashLine (h : Field 65) : Bytes := if h.bytes = [] then [0x2D] else h.bytes

/-- The text of a proposal file. -/
def proposalFile (body : Bytes) (chainEntryHash : Field 65) : Bytes :=
  snprintfS 2700 (body ++ 0x0A :: hashLine chainEntryHash ++ [0x0A])

/-- The text of an approval file. -/
def approvalFile (body : Bytes) (a : ApprovalRec) : Bytes :=
  snprintfS 2200 (body ++ 0x0A :: hexEncode a.sig.bytes ++ 0x0A :: hashLine a.chainEntryHash ++ [0x0A])

/-- The text up to the next line feed, and what follows it. -/
def splitLine (b : Bytes) : Bytes × Bytes :=
  (b.takeWhile (· != 0x0A), (b.dropWhile (· != 0x0A)).drop 1)

/-- `split_lines`: the first three lines. -/
def splitLines (b : Bytes) : Bytes × Bytes × Bytes :=
  let first := splitLine b
  let second := splitLine first.2
  (first.1, second.1, (splitLine second.2).1)

/-- The chain entry hash a line holds. -/
def chainHashOfLine (line : Bytes) : Field 65 := if line = [0x2D] then .empty 65 else .copy 65 line

/-- A failed `fopen`. -/
inductive Errno where
  | noent | acces | other
deriving DecidableEq, Repr

section
variable (parse : Bytes → Option Json)

/-- Parse a document that has to be an object. -/
def parseObject (t : Bytes) : Option Json :=
  match parse t with
  | some (.object members) => some (.object members)
  | _ => none

/-- The rest of `virp_approval_load_proposal`, on what `read_file` returned.
`storePresent` is the answer of `stat` about the store's directory. -/
def loadProposal (id : Bytes) (storePresent : Bool) : Except Errno Bytes → Except VirpError ProposalRec
  | .error .acces => .error .approvalStoreUnreadable
  | .error _ => .error (if storePresent then .approvalNotFound else .approvalStoreAbsent)
  | .ok file =>
    let lines := splitLines (cstr (file.take 4095))
    match parseObject parse lines.1 with
    | none => .error .chainDb
    | some o =>
      match jgetStr 33 o (text "proposal_id"), jgetStr 64 o (text "session_id"),
        jgetStr 64 o (text "device"), jgetU64 o (text "device_node_id"),
        jgetStr 1024 o (text "command"), jgetStr 65 o (text "command_hash"),
        jgetStr 64 o (text "proposer"), jgetU64Str o (text "timestamp_ns"),
        jgetStr 16 o (text "tier") with
      | some pid, some session, some device, some nid, some command, some hash, some proposer,
          some ts, some tier =>
        if 2 ^ 32 ≤ nid ∨ pid.bytes ≠ id ∨ artifactHashOk hash.bytes = false then .error .chainDb
        else .ok ⟨pid, session, device, nid.toUInt32, command, hash, proposer, ts, tier,
          chainHashOfLine lines.2.1⟩
      | _, _, _, _, _, _, _, _, _ => .error .chainDb

/-- `challenge_load`, on what `read_file` returned. -/
def loadChallenge (id : Bytes) : Except Errno Bytes → Except VirpError Challenge
  | .error .noent => .error .approvalNotFound
  | .error _ => .error .approvalStoreUnreadable
  | .ok file =>
    match parseObject parse (cstr (file.take 2047)) with
    | none => .error .chainDb
    | some o =>
      match jgetStr 33 o (text "proposal_id"), jgetStr 65 o (text "command_hash"),
        jgetStr 64 o (text "device"), jgetU64 o (text "device_node_id"),
        jgetU64Str o (text "approved_at_ns"), jgetU64 o (text "ttl_seconds") with
      | some pid, some hash, some device, some nid, some at_, some ttl =>
        if 2 ^ 32 ≤ nid ∨ 86400 < ttl ∨ pid.bytes ≠ id ∨ artifactHashOk hash.bytes = false then
          .error .chainDb
        else match approvalBuildCanonical pid.bytes hash.bytes nid.toUInt32 at_ ttl.toUInt32 with
        | none => .error .invalidLength
        | some canonical => .ok ⟨pid, canonical, device, .empty 1024, hash, .empty 16,
            nid.toUInt32, at_, ttl.toUInt32⟩
      | _, _, _, _, _, _ => .error .chainDb

/-- `approval_load_raw` and `approval_record_load`, on what `read_file` returned. -/
def approvalRecordLoad (id : Bytes) : Except Errno Bytes → Except VirpError ApprovalRec
  | .error .noent => .error .approvalNotFound
  | .error _ => .error .approvalStoreUnreadable
  | .ok file =>
    let lines := splitLines (cstr (file.take 4095))
    if lines.1 = [] ∨ 2048 ≤ lines.1.length then .error .approvalBadSignature
    else match chainsignSigFromHex lines.2.1, parseObject parse lines.1 with
    | some sig, some o =>
      match jgetStr 33 o (text "proposal_id"), jgetStr 65 o (text "command_hash"),
        jgetStr 64 o (text "device"), jgetU64 o (text "device_node_id"),
        jgetU64Str o (text "approved_at_ns"), jgetU64 o (text "ttl_seconds"),
        jgetStr 33 o (text "approver_key_id") with
      | some pid, some hash, some device, some nid, some at_, some ttl, some keyId =>
        if 2 ^ 32 ≤ nid ∨ 86400 < ttl ∨ pid.bytes ≠ id ∨ artifactHashOk hash.bytes = false then
          .error .approvalBadSignature
        else .ok ⟨pid, hash, device, nid.toUInt32, at_, ttl.toUInt32, keyId,
          (jgetStr 64 o (text "operator")).getD (.empty 64), sig, chainHashOfLine lines.2.2⟩
      | _, _, _, _, _, _, _ => .error .approvalBadSignature
    | _, _ => .error .approvalBadSignature

end

/-! ## Verification -/

/-- `approved_at_ns + ttl_seconds * 1000000000`, in 64 bits. -/
def ApprovalRec.expiry (a : ApprovalRec) : UInt64 :=
  a.approvedAtNs + a.ttlSeconds.toUInt64 * 1000000000

/-- What an approval is checked against: the device and the command of the request. -/
structure ApprovalTarget where
  device : Bytes
  deviceNodeId : UInt32
  command : Bytes
  typedProfile : Option Bytes
deriving DecidableEq

/-- The checks of `virp_approval_verify` on a record, in their order. -/
def checkApproval (C : Crypto) (reg : List Approver) (t : ApprovalTarget) (now : UInt64)
    (a : ApprovalRec) : Option VirpError :=
  match approverRegistryFindAny reg a.approverKeyId.bytes with
  | none => some .approvalKeyUnenrolled
  | some ent =>
    if ent.enabled = false then some .approvalKeyDisabled
    else match approvalBuildCanonical a.proposalId.bytes a.commandHash.bytes a.deviceNodeId
        a.approvedAtNs a.ttlSeconds with
    | none => some .approvalBadSignature
    | some canonical =>
      if approverVerify C ent canonical a.sig = false then some .approvalBadSignature
      else if commandHashHex C t.command t.typedProfile ≠ some a.commandHash.bytes then
        some .approvalHashMismatch
      else if t.device ≠ a.device.bytes ∨ t.deviceNodeId ≠ a.deviceNodeId then
        some .approvalDeviceMismatch
      -- a date more than a minute ahead is no reason to grant a longer window
      else if a.expiry < now ∨ now + 60 * 1000000000 < a.approvedAtNs then some .approvalExpired
      else none

/-- `virp_approval_verify`, on what `read_file` returned. -/
def virpApprovalVerify (C : Crypto) (parse : Bytes → Option Json) (reg : List Approver) (id : Bytes)
    (t : ApprovalTarget) (now : UInt64) (file : Except Errno Bytes) : Except VirpError ApprovalRec :=
  if proposalIdValid id = false then .error .approvalNotFound
  else match approvalRecordLoad parse id file with
  | .error err => .error err
  | .ok a =>
    match checkApproval C reg t now a with
    | some err => .error err
    | none => .ok a

/-- **What a verified approval is**: signed by an enabled approver over the bytes that
spell its own fields, for this command on this device, and within its lifetime up to
a minute of clock skew. -/
structure Approves (C : Crypto) (reg : List Approver) (t : ApprovalTarget) (now : UInt64)
    (a : ApprovalRec) : Prop where
  signed : ∃ ent ∈ reg, ent.enabled = true ∧ ∃ canonical,
    approvalBuildCanonical a.proposalId.bytes a.commandHash.bytes a.deviceNodeId a.approvedAtNs
      a.ttlSeconds = some canonical ∧ approverVerify C ent canonical a.sig = true
  command : commandHashHex C t.command t.typedProfile = some a.commandHash.bytes
  device : t.device = a.device.bytes
  node : t.deviceNodeId = a.deviceNodeId
  started : a.approvedAtNs.toNat ≤ now.toNat + 60 * 1000000000
  unexpired : now.toNat ≤ a.approvedAtNs.toNat + a.ttlSeconds.toNat * 1000000000

/-- The bounds of a lifetime, freed of the wrap-around: with a lifetime of at most a
day, no date near 2^64 passes both tests. -/
theorem lifetime_of_checks {approvedAt now : UInt64} {ttl : UInt32} (httl : ttl.toNat ≤ 86400)
    (hexp : ¬ approvedAt + ttl.toUInt64 * 1000000000 < now)
    (hskew : ¬ now + 60 * 1000000000 < approvedAt) :
    approvedAt.toNat ≤ now.toNat + 60 * 1000000000 ∧
      now.toNat ≤ approvedAt.toNat + ttl.toNat * 1000000000 := by
  have ha := approvedAt.toNat_lt
  have hn := now.toNat_lt
  simp only [UInt64.lt_iff_toNat_lt, UInt64.toNat_add, UInt64.toNat_mul, UInt32.toNat_toUInt64,
    UInt64.toNat_ofNat, Nat.not_lt] at hexp hskew
  omega

/-- What is checked of a record before the clock is looked at. -/
structure SignedFor (C : Crypto) (reg : List Approver) (t : ApprovalTarget) (a : ApprovalRec) :
    Prop where
  signed : ∃ ent, approverRegistryFindAny reg a.approverKeyId.bytes = some ent ∧
    ent.enabled = true ∧ ∃ canonical,
      approvalBuildCanonical a.proposalId.bytes a.commandHash.bytes a.deviceNodeId a.approvedAtNs
        a.ttlSeconds = some canonical ∧ approverVerify C ent canonical a.sig = true
  command : commandHashHex C t.command t.typedProfile = some a.commandHash.bytes
  device : t.device = a.device.bytes
  node : t.deviceNodeId = a.deviceNodeId

section
variable {C : Crypto} {reg : List Approver} {t : ApprovalTarget} {now : UInt64} {a : ApprovalRec}

/-- The clock is looked at last. -/
theorem SignedFor.checkApproval_eq (h : SignedFor C reg t a) : checkApproval C reg t now a =
      if a.expiry < now ∨ now + 60 * 1000000000 < a.approvedAtNs then some .approvalExpired
      else none := by
  obtain ⟨ent, hent, henabled, canonical, hcanon, hsig⟩ := h.signed
  simp [checkApproval, hent, henabled, hcanon, hsig, h.command, h.device, h.node]

/-- Only a record that passed the other checks is accepted, or refused as expired. -/
theorem signedFor_of_checkApproval
    (h : checkApproval C reg t now a = none ∨ checkApproval C reg t now a = some .approvalExpired) :
    SignedFor C reg t a := by
  unfold checkApproval at h
  split at h
  · simp at h
  rename_i ent hent
  split at h
  · simp at h
  rename_i henabled
  split at h
  · simp at h
  rename_i canonical hcanon
  split at h
  · simp at h
  rename_i hsig
  split at h
  · simp at h
  rename_i hhash
  split at h
  · simp at h
  rename_i hdev
  rw [not_or, not_not, not_not] at hdev
  exact ⟨⟨ent, hent, by simpa using henabled, canonical, hcanon, by simpa using hsig⟩,
    not_not.mp hhash, hdev.1, hdev.2⟩

theorem checkApproval_eq_none (httl : a.ttlSeconds.toNat ≤ 86400)
    (h : checkApproval C reg t now a = none) : Approves C reg t now a := by
  have hs := signedFor_of_checkApproval (.inl h)
  rw [hs.checkApproval_eq, ite_eq_right_iff] at h
  have htime : ¬ (a.expiry < now ∨ now + 60 * 1000000000 < a.approvedAtNs) := fun hbad => by
    cases h hbad
  rw [not_or] at htime
  obtain ⟨hstart, hend⟩ := lifetime_of_checks httl htime.1 htime.2
  obtain ⟨ent, hent, hrest⟩ := hs.signed
  exact ⟨⟨ent, List.mem_of_find?_eq_some hent, hrest⟩, hs.command, hs.device, hs.node, hstart, hend⟩

end

/-- A record that loads carries the id it was looked up by and a lifetime of at most a
day. -/
theorem approvalRecordLoad_ok {parse : Bytes → Option Json} {id : Bytes} {file : Except Errno Bytes}
    {a : ApprovalRec} (h : approvalRecordLoad parse id file = .ok a) :
    a.proposalId.bytes = id ∧ a.ttlSeconds.toNat ≤ 86400 := by
  unfold approvalRecordLoad at h
  split at h
  · cases h
  · cases h
  simp only at h
  split at h
  · cases h
  split at h
  · split at h
    · rename_i ttl _ _ _ _ _ _ _ _
      split at h
      · cases h
      rename_i hbad
      cases h
      simp only [not_or] at hbad
      refine ⟨not_not.mp hbad.2.2.1, ?_⟩
      have httl : ttl ≤ 86400 := Nat.le_of_not_lt hbad.2.1
      simp only [Nat.toUInt32, UInt32.toNat_ofNat']
      exact le_trans (Nat.mod_le _ _) httl
    · cases h
  · cases h

/-- **What `virp_approval_verify` establishes.** -/
theorem virpApprovalVerify_ok {C : Crypto} {parse : Bytes → Option Json} {reg : List Approver}
    {id : Bytes} {t : ApprovalTarget} {now : UInt64} {file : Except Errno Bytes} {a : ApprovalRec}
    (h : virpApprovalVerify C parse reg id t now file = .ok a) :
    approvalRecordLoad parse id file = .ok a ∧ a.proposalId.bytes = id ∧ Approves C reg t now a := by
  unfold virpApprovalVerify at h
  split at h
  · cases h
  split at h
  · cases h
  rename_i b hload
  split at h
  · cases h
  rename_i hcheck
  cases h
  obtain ⟨hid, httl⟩ := approvalRecordLoad_ok hload
  exact ⟨hload, hid, checkApproval_eq_none httl hcheck⟩

end Virp
