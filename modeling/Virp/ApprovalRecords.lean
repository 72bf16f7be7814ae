import Virp.ApprovalFlow
import Virp.CJson

/-! # What an approval record binds

The approver signs 72 bytes that spell the proposal, the hash of the command, the device,
the date and the lifetime.  The record keeps those five fields in a document and the
signature in a line of its own, and `virp_approval_verify` spells the bytes again from the
fields it reads.

The bytes determine the fields (`payload_inj`), and a record that `virp_approval_submit`
writes is read back with the fields that were signed.  What is signed is what is read, not
what is stored: `jget_str` cuts a string that is too long, `jget_u64` drops a fraction, and
`jget_u64str` passes over blanks and a sign.
-/
namespace Virp

open Decimal Numeral Threads List Prog

/-! ## The signed bytes -/

/-- The fields an approver signs. -/
structure SignedFields where
  proposalId : Bytes
  commandHash : Bytes
  deviceNodeId : UInt32
  approvedAtNs : UInt64
  ttlSeconds : UInt32
deriving DecidableEq

/-- The bytes that spell them. -/
def SignedFields.payload (f : SignedFields) : Option Bytes :=
  approvalBuildCanonical f.proposalId f.commandHash f.deviceNodeId f.approvedAtNs f.ttlSeconds

/-- The signed fields of a record. -/
def ApprovalRec.signedFields (a : ApprovalRec) : SignedFields :=
  ⟨a.proposalId.bytes, a.commandHash.bytes, a.deviceNodeId, a.approvedAtNs, a.ttlSeconds⟩

theorem hexval_of_isLowerHex {c : UInt8} (h : isLowerHex c = true) :
    ∃ n, n < 16 ∧ hexval c = some n ∧ hexDigit n = c := by
  have table : ∀ k : Fin 256, isLowerHex (UInt8.ofNat k) = true →
      (hexval (UInt8.ofNat k)).any (fun n => n < 16 && hexDigit n == UInt8.ofNat k) = true := by
    decide +kernel
  have hc := table ⟨c.toNat, c.toNat_lt⟩
  simp only [UInt8.ofNat_toNat] at hc
  obtain ⟨n, hn, hp⟩ := (Option.any_eq_true _ _).mp (hc h)
  simp only [Bool.and_eq_true, decide_eq_true_eq, beq_iff_eq] at hp
  exact ⟨n, hp.1, hn, hp.2⟩

/-- Lowercase hex spells one byte string, in one way. -/
theorem hexEncode_of_hexDecode {s d : Bytes} (hs : s.all isLowerHex = true)
    (h : hexDecode s = some d) : hexEncode d = s := by
  fun_induction hexDecode s generalizing d with
  | case1 =>
    cases h
    rfl
  | case2 x => cases h
  | case3 hi lo rest a b r hr hlo hhi ih =>
    cases h
    simp only [all_cons, Bool.and_eq_true] at hs
    obtain ⟨m, hm, hhi', hhid⟩ := hexval_of_isLowerHex hs.1
    obtain ⟨n, hn, hlo', hlod⟩ := hexval_of_isLowerHex hs.2.1
    obtain rfl : a = m := Option.mem_unique hhi hhi'
    obtain rfl : b = n := Option.mem_unique hlo hlo'
    have hbyte : ((16 * a + b).toUInt8).toNat = 16 * a + b := by
      simp only [Nat.toUInt8, UInt8.toNat_ofNat']
      omega
    rw [hexEncode_cons, hbyte, ih hs.2.2 hr, ← hhid, ← hlod]
    rw [show (16 * a + b) / 16 = a by omega, show (16 * a + b) % 16 = b by omega]
  | case4 hi lo rest hne => cases h

theorem hexDecode_hexEncode (b : Bytes) : hexDecode (hexEncode b) = some b := by
  have table : ∀ k : Fin 16, hexval (hexDigit k) = some (k : Nat) := by decide
  induction b with
  | nil => rfl
  | cons x b ih =>
    have hx := x.toNat_lt
    have hhi := table ⟨x.toNat / 16, by omega⟩
    have hlo := table ⟨x.toNat % 16, by omega⟩
    simp only at hhi hlo
    rw [hexEncode_cons, hexDecode, hhi, hlo, ih]
    simp only
    rw [Nat.div_add_mod, Nat.toUInt8, UInt8.ofNat_toNat]

/-- A signature is read back from its hex. -/
theorem chainsignSigFromHex_hexEncode (sig : Signature) :
    chainsignSigFromHex (hexEncode sig.bytes) = some sig := by
  have hlen : (hexEncode sig.bytes).length = 128 := by rw [length_hexEncode, sig.length_eq]
  rw [chainsignSigFromHex, dif_pos hlen]
  split
  · rename_i d hd
    rw [hexDecode_hexEncode] at hd
    cases hd
    rfl
  · rename_i hd
    rw [hexDecode_hexEncode] at hd
    cases hd

variable {c keyId body : Bytes} {n : Nat} {lc : Libc}

/-- What it takes to be spelled, and the parts of the bytes. -/
theorem SignedFields.payload_eq_some {f : SignedFields} (h : f.payload = some c) :
    f.proposalId.all isLowerHex = true ∧ f.commandHash.all isLowerHex = true ∧
      ∃ id hash : Bytes, hexDecode f.proposalId = some id ∧ id.length = 16 ∧
        hexDecode f.commandHash = some hash ∧ hash.length = 32 ∧
        c = text "VAP1" ++ (id ++ (hash ++ (putBe64 f.deviceNodeId.toNat ++
          (putBe64 f.approvedAtNs.toNat ++ putBe32 f.ttlSeconds.toNat)))) := by
  unfold payload approvalBuildCanonical at h
  split at h
  · cases h
  rename_i hok
  simp only [not_or, Bool.not_eq_false, proposalIdValid, artifactHashOk, Bool.and_eq_true,
    beq_iff_eq] at hok
  split at h
  · rename_i id hash hid hhash
    refine ⟨hok.1.2, hok.2.2, id, hash, hid, ?_, hhash, ?_, ?_⟩
    · have := length_hexDecode hid
      omega
    · have := length_hexDecode hhash
      omega
    · rw [← Option.some.inj h]
      simp only [append_assoc]
  · cases h

/-- **The signed bytes determine the fields.** -/
theorem SignedFields.payload_inj {f g : SignedFields} (hf : f.payload = some c)
    (hg : g.payload = some c) : f = g := by
  obtain ⟨hfid, hfhash, id, hash, hid, hidl, hhash, hhashl, hc⟩ := f.payload_eq_some hf
  obtain ⟨hgid, hghash, id', hash', hid', hidl', hhash', hhashl', hc'⟩ := g.payload_eq_some hg
  obtain ⟨rfl, hrest⟩ := append_inj (append_cancel_left (hc.symm.trans hc'))
    (hidl.trans hidl'.symm)
  obtain ⟨rfl, hnums⟩ := append_inj hrest (hhashl.trans hhashl'.symm)
  obtain ⟨hnode, htimes⟩ := append_inj hnums rfl
  obtain ⟨htime, httl⟩ := append_inj htimes rfl
  have hflt := f.deviceNodeId.toNat_lt
  have hglt := g.deviceNodeId.toNat_lt
  have hnode := putBe64_inj (by omega) (by omega) hnode
  have htime := putBe64_inj f.approvedAtNs.toNat_lt g.approvedAtNs.toNat_lt htime
  have httl := putBe32_inj f.ttlSeconds.toNat_lt g.ttlSeconds.toNat_lt httl
  have hfid := (hexEncode_of_hexDecode hfid hid).symm.trans (hexEncode_of_hexDecode hgid hid')
  have hfhash := (hexEncode_of_hexDecode hfhash hhash).symm.trans
    (hexEncode_of_hexDecode hghash hhash')
  cases f
  cases g
  simp only [SignedFields.mk.injEq]
  exact ⟨hfid, hfhash, UInt32.toNat_inj.mp hnode, UInt64.toNat_inj.mp htime,
    UInt32.toNat_inj.mp httl⟩

/-- The file holds the document `o` in its first line, followed by the lines `rest`. -/
def Holds (parse : Bytes → Option Json) (file : Bytes) (o : Json) (rest : Bytes × Bytes) : Prop :=
  ∃ line, splitLines (cstr (file.take 4095)) = (line, rest) ∧ line ≠ [] ∧ line.length < 2048 ∧
    parseObject parse line = some o

theorem Holds.unique {parse : Bytes → Option Json} {file : Bytes} {o o' : Json}
    {rest rest' : Bytes × Bytes} (h : Holds parse file o rest) (h' : Holds parse file o' rest') :
    o' = o ∧ rest' = rest := by
  obtain ⟨line, hsplit, -, -, hparse⟩ := h
  obtain ⟨line', hsplit', -, -, hparse'⟩ := h'
  obtain ⟨rfl, rfl⟩ := Prod.mk.inj (hsplit.symm.trans hsplit')
  exact ⟨Option.mem_unique hparse' hparse, rfl⟩

/-- The record `a` is what is read from the document `o` and the lines `rest`. -/
structure RecordRead (id : Bytes) (o : Json) (rest : Bytes × Bytes) (a : ApprovalRec) : Prop where
  proposalId : jgetStr 33 o (text "proposal_id") = some a.proposalId
  commandHash : jgetStr 65 o (text "command_hash") = some a.commandHash
  device : jgetStr 64 o (text "device") = some a.device
  deviceNodeId : jgetU64 o (text "device_node_id") = some a.deviceNodeId.toNat
  approvedAtNs : jgetU64Str o (text "approved_at_ns") = some a.approvedAtNs
  ttlSeconds : jgetU64 o (text "ttl_seconds") = some a.ttlSeconds.toNat
  approverKeyId : jgetStr 33 o (text "approver_key_id") = some a.approverKeyId
  operator : (jgetStr 64 o (text "operator")).getD (.empty 64) = a.operator
  sig : chainsignSigFromHex rest.1 = some a.sig
  chainEntryHash : chainHashOfLine rest.2 = a.chainEntryHash
  id_eq : a.proposalId.bytes = id
  ttl_le : a.ttlSeconds.toNat ≤ 86400
  hash_ok : artifactHashOk a.commandHash.bytes = true

section
variable {parse : Bytes → Option Json} {id file : Bytes} {a : ApprovalRec}

theorem toNat_toUInt32 (h : n < 2 ^ 32) : n.toUInt32.toNat = n := by
  simp only [Nat.toUInt32, UInt32.toNat_ofNat']
  omega

/-- **When a record loads.** -/
theorem approvalRecordLoad_eq_ok_iff :
    approvalRecordLoad parse id (.ok file) = .ok a ↔
      ∃ o rest, Holds parse file o rest ∧ RecordRead id o rest a := by
  constructor
  · intro h
    simp only [approvalRecordLoad] at h
    split at h
    · cases h
    rename_i hline
    rw [not_or] at hline
    split at h
    · rename_i sig o hsig ho
      split at h
      · rename_i pid hash device nid at_ ttl keyId h1 h2 h3 h4 h5 h6 h7
        split at h
        · cases h
        rename_i hbad
        simp only [not_or, Bool.not_eq_false, not_not] at hbad
        cases h
        have hnid := toNat_toUInt32 (Nat.lt_of_not_le hbad.1)
        have httl := toNat_toUInt32 (n := ttl) (by omega)
        refine ⟨o, _, ⟨_, rfl, hline.1, Nat.lt_of_not_le hline.2, ho⟩, ?_⟩
        exact
          { proposalId := h1, commandHash := h2, device := h3,
            deviceNodeId := h4.trans (congrArg some hnid.symm)
            approvedAtNs := h5
            ttlSeconds := h6.trans (congrArg some httl.symm)
            approverKeyId := h7, operator := rfl, sig := hsig, chainEntryHash := rfl
            id_eq := hbad.2.2.1
            ttl_le := by simp only [httl]; omega
            hash_ok := hbad.2.2.2 }
      · cases h
    · cases h
  · rintro ⟨o, rest, ⟨line, hlines, hne, hlen, ho⟩, h⟩
    have hnid := a.deviceNodeId.toNat_lt
    simp only [approvalRecordLoad, hlines, ho, h.sig, h.proposalId, h.commandHash, h.device,
      h.deviceNodeId, h.approvedAtNs, h.ttlSeconds, h.approverKeyId, h.operator, h.chainEntryHash]
    have hgood : ¬ (2 ^ 32 ≤ a.deviceNodeId.toNat ∨ 86400 < a.ttlSeconds.toNat ∨
        a.proposalId.bytes ≠ id ∨ artifactHashOk a.commandHash.bytes = false) := by
      have := h.ttl_le
      simp only [not_or, not_not, h.id_eq, h.hash_ok]
      exact ⟨by omega, by omega, trivial, by simp⟩
    rw [if_neg (by simp only [not_or]; exact ⟨hne, by omega⟩), if_neg hgood]
    simp only [Nat.toUInt32, UInt32.ofNat_toNat]

/-- When a record verifies. -/
theorem virpApprovalVerify_eq_ok_iff {C : Crypto} {reg : List Approver} {t : ApprovalTarget}
    {now : UInt64} {read : Except Errno Bytes} :
    virpApprovalVerify C parse reg id t now read = .ok a ↔ proposalIdValid id = true ∧
      approvalRecordLoad parse id read = .ok a ∧ checkApproval C reg t now a = none := by
  unfold virpApprovalVerify
  by_cases hid : proposalIdValid id = false
  · rw [if_pos hid]
    simp [hid]
  rw [if_neg hid]
  simp only [Bool.not_eq_false] at hid
  cases approvalRecordLoad parse id read with
  | error err => simp
  | ok b =>
    simp only [hid, true_and, Except.ok.injEq]
    cases hcheck : checkApproval C reg t now b with
    | some err =>
      simp only [reduceCtorEq, false_iff, not_and]
      rintro rfl
      simp [hcheck]
    | none =>
      simp only [Except.ok.injEq]
      constructor
      · rintro rfl
        exact ⟨rfl, hcheck⟩
      · exact And.left

end

/-- The key that a verified record names has signed the bytes its fields spell. -/
theorem checkApproval_signed {C : Crypto} {reg : List Approver} {t : ApprovalTarget} {now : UInt64}
    {a : ApprovalRec} (h : checkApproval C reg t now a = none) :
    ∃ ent, approverRegistryFindAny reg a.approverKeyId.bytes = some ent ∧ ent.enabled = true ∧
      ∃ c, a.signedFields.payload = some c ∧ approverVerify C ent c a.sig = true := by
  unfold checkApproval at h
  split at h
  · cases h
  rename_i ent hent
  split at h
  · cases h
  rename_i henabled
  split at h
  · cases h
  rename_i c hc
  split at h
  · cases h
  rename_i hsig
  exact ⟨ent, hent, by simpa using henabled, c, hc, by simpa using hsig⟩

/-! ## Changing a stored record -/

/-- The members of a record that hold the signed fields. -/
def signedNames : List Bytes :=
  [text "proposal_id", text "command_hash", text "device_node_id", text "approved_at_ns",
    text "ttl_seconds"]

/-- The document is `o` but for its signed fields. -/
def SignedFieldsChanged (o o' : Json) : Prop := ∀ key, key ∉ signedNames → o'.item key = o.item key

/-- Every signed field is read from `o'` as it is from `o`. -/
structure ReadAlike (o o' : Json) : Prop where
  proposalId : jgetStr 33 o' (text "proposal_id") = jgetStr 33 o (text "proposal_id")
  commandHash : jgetStr 65 o' (text "command_hash") = jgetStr 65 o (text "command_hash")
  deviceNodeId : jgetU64 o' (text "device_node_id") = jgetU64 o (text "device_node_id")
  approvedAtNs : jgetU64Str o' (text "approved_at_ns") = jgetU64Str o (text "approved_at_ns")
  ttlSeconds : jgetU64 o' (text "ttl_seconds") = jgetU64 o (text "ttl_seconds")

variable {cap : Nat} {key hash : Bytes} {sig : Signature}

theorem SignedFieldsChanged.jgetStr_eq {o o' : Json} (h : SignedFieldsChanged o o')
    (hcap : Nat.ble 1 cap = true) (hkey : key ∉ signedNames) :
    jgetStr cap o' key hcap = jgetStr cap o key hcap := by
  rw [jgetStr, jgetStr, h key hkey]

section
variable {id : Bytes} {o o' : Json} {rest : Bytes × Bytes} {a a' : ApprovalRec}

section
variable (h : RecordRead id o rest a)
include h

/-- A document that reads alike is the same record. -/
theorem RecordRead.of_readAlike (hc : SignedFieldsChanged o o') (hr : ReadAlike o o') :
    RecordRead id o' rest a :=
  { proposalId := hr.proposalId.trans h.proposalId
    commandHash := hr.commandHash.trans h.commandHash
    device := (hc.jgetStr_eq (by decide) (by decide +kernel)).trans h.device
    deviceNodeId := hr.deviceNodeId.trans h.deviceNodeId
    approvedAtNs := hr.approvedAtNs.trans h.approvedAtNs
    ttlSeconds := hr.ttlSeconds.trans h.ttlSeconds
    approverKeyId := (hc.jgetStr_eq (by decide) (by decide +kernel)).trans h.approverKeyId
    operator := by
      rw [hc.jgetStr_eq (by decide) (by decide +kernel)]
      exact h.operator
    sig := h.sig
    chainEntryHash := h.chainEntryHash
    id_eq := h.id_eq
    ttl_le := h.ttl_le
    hash_ok := h.hash_ok }

/-- Records with the same signed fields were read alike. -/
theorem RecordRead.readAlike (h' : RecordRead id o' rest a') (hs : a'.signedFields = a.signedFields) :
    ReadAlike o o' := by
  simp only [ApprovalRec.signedFields, SignedFields.mk.injEq] at hs
  obtain ⟨hid, hhash, hnode, htime, httl⟩ := hs
  exact
    { proposalId := by rw [h.proposalId, h'.proposalId, Field.ext hid]
      commandHash := by rw [h.commandHash, h'.commandHash, Field.ext hhash]
      deviceNodeId := by rw [h.deviceNodeId, h'.deviceNodeId, hnode]
      approvedAtNs := by rw [h.approvedAtNs, h'.approvedAtNs, htime]
      ttlSeconds := by rw [h.ttlSeconds, h'.ttlSeconds, httl] }

theorem RecordRead.sig_eq (h' : RecordRead id o' rest a') : a'.sig = a.sig :=
  Option.mem_unique h'.sig h.sig

theorem RecordRead.approverKeyId_eq (h' : RecordRead id o' rest a') (hc : SignedFieldsChanged o o') :
    a'.approverKeyId = a.approverKeyId := by
  have hkey : jgetStr 33 o' (text "approver_key_id") = jgetStr 33 o (text "approver_key_id") :=
    hc.jgetStr_eq (by decide) (by decide +kernel)
  exact Option.mem_unique h'.approverKeyId (hkey.trans h.approverKeyId)

end

end

/-- **Signatures of the approvers are unforgeable**: a payload that verifies under an
approver's key was signed by the approver, and no signature verifies for two payloads. -/
structure Unforgeable (C : Crypto) (reg : List Approver) (signed : Approver → Bytes → Prop) :
    Prop where
  signed_of_verify : ∀ ent ∈ reg, ∀ payload sig, approverVerify C ent payload sig = true →
    signed ent payload
  one_payload : ∀ ent ∈ reg, ∀ payload payload' sig, approverVerify C ent payload sig = true →
    approverVerify C ent payload' sig = true → payload = payload'

section
variable {C : Crypto} {reg : List Approver} {signed : Approver → Bytes → Prop}
  {parse : Bytes → Option Json} {id : Bytes} {t : ApprovalTarget} {now : UInt64}

/-- What an approver must have signed for a record to verify. -/
theorem signed_of_virpApprovalVerify (hU : Unforgeable C reg signed) {read : Except Errno Bytes}
    {a : ApprovalRec} (h : virpApprovalVerify C parse reg id t now read = .ok a) :
    ∃ ent ∈ reg, ent.enabled = true ∧ ∃ hash payload,
      commandHashHex C t.command t.typedProfile = some hash ∧
      (SignedFields.mk id hash t.deviceNodeId a.approvedAtNs a.ttlSeconds).payload = some payload ∧
      signed ent payload := by
  obtain ⟨-, rfl, happ⟩ := virpApprovalVerify_ok h
  obtain ⟨ent, hent, henabled, payload, hpayload, hsig⟩ := happ.signed
  refine ⟨ent, hent, henabled, a.commandHash.bytes, payload, happ.command, ?_,
    hU.signed_of_verify ent hent payload a.sig hsig⟩
  rw [happ.node]
  exact hpayload

/-- Two records that verify with the same signature and key have the same signed fields. -/
theorem signedFields_eq_of_checkApproval (hU : Unforgeable C reg signed) {a a' : ApprovalRec}
    (h : checkApproval C reg t now a = none) (h' : checkApproval C reg t now a' = none)
    (hsig : a'.sig = a.sig) (hkey : a'.approverKeyId = a.approverKeyId) :
    a'.signedFields = a.signedFields := by
  obtain ⟨ent, hent, -, c, hc, hv⟩ := checkApproval_signed h
  obtain ⟨ent', hent', -, c', hc', hv'⟩ := checkApproval_signed h'
  rw [hkey, hent] at hent'
  cases hent'
  rw [hsig] at hv'
  obtain rfl := hU.one_payload ent (mem_of_find?_eq_some hent) c c' a.sig hv hv'
  exact SignedFields.payload_inj hc' hc

/-- **A changed record fails exactly if a signed field is read differently.** -/
theorem changed_record_fails_iff (hU : Unforgeable C reg signed) {file file' : Bytes} {o : Json}
    {rest : Bytes × Bytes} {a : ApprovalRec}
    (h : virpApprovalVerify C parse reg id t now (.ok file) = .ok a) (ho : Holds parse file o rest)
    (hlines : (splitLines (cstr (file'.take 4095))).2 = rest)
    (hc : ∀ o', Holds parse file' o' rest → SignedFieldsChanged o o') :
    (∃ err, virpApprovalVerify C parse reg id t now (.ok file') = .error err) ↔
      ¬ ∃ o', Holds parse file' o' rest ∧ ReadAlike o o' := by
  obtain ⟨hid, hload, hcheck⟩ := virpApprovalVerify_eq_ok_iff.mp h
  obtain ⟨o₁, rest₁, ho₁, hread⟩ := approvalRecordLoad_eq_ok_iff.mp hload
  obtain ⟨rfl, rfl⟩ := ho₁.unique ho
  have hfails : (∃ err, virpApprovalVerify C parse reg id t now (.ok file') = .error err) ↔
      ¬ ∃ a', virpApprovalVerify C parse reg id t now (.ok file') = .ok a' := by
    cases virpApprovalVerify C parse reg id t now (.ok file') <;> simp
  rw [hfails, not_iff_not]
  constructor
  · rintro ⟨a', h'⟩
    obtain ⟨-, hload', hcheck'⟩ := virpApprovalVerify_eq_ok_iff.mp h'
    obtain ⟨o', rest', hholds, hread'⟩ := approvalRecordLoad_eq_ok_iff.mp hload'
    obtain rfl : rest' = rest := by
      obtain ⟨line', hsplit', -⟩ := hholds
      rw [← hlines, hsplit']
    have hs := signedFields_eq_of_checkApproval hU hcheck hcheck' (hread.sig_eq hread')
      (hread.approverKeyId_eq hread' (hc o' hholds))
    exact ⟨o', hholds, hread.readAlike hread' hs⟩
  · rintro ⟨o', hholds, halike⟩
    exact ⟨a, virpApprovalVerify_eq_ok_iff.mpr ⟨hid, approvalRecordLoad_eq_ok_iff.mpr
      ⟨o', _, hholds, hread.of_readAlike (hc o' hholds) halike⟩, hcheck⟩⟩

end

/-! ## A record that was submitted -/

theorem decimalValue_unsigned (n : Nat) : decimalValue (unsigned n) = some n := by
  have hne : ¬ (unsigned n = [] ∨ (unsigned n).any (fun c => c < 0x30 || 0x39 < c) = true) := by
    have hpos := length_unsigned_pos n
    rintro (h | h)
    · simp [h] at hpos
    · obtain ⟨c, hc, hb⟩ := any_eq_true.mp h
      have hr := mem_unsigned hc
      simp only [Bool.or_eq_true, decide_eq_true_eq, UInt8.lt_iff_toNat_lt, UInt8.reduceToNat] at hb
      omega
  rw [decimalValue, if_neg hne]
  exact congrArg some (natOf_unsigned n)

theorem strtoull_unsigned (n : UInt64) : strtoull (unsigned n.toNat) = some n := by
  have hpos := length_unsigned_pos n.toNat
  obtain ⟨c, t, hct⟩ : ∃ c t, unsigned n.toNat = c :: t := by
    cases h : unsigned n.toNat with
    | nil => simp [h] at hpos
    | cons c t => exact ⟨c, t, rfl⟩
  have hr := mem_unsigned (show c ∈ unsigned n.toNat by simp [hct])
  have hblank : (unsigned n.toNat).dropWhile (fun c => c == 0x20 || (0x09 ≤ c && c ≤ 0x0D)) =
      unsigned n.toNat := by
    rw [hct, dropWhile_cons_of_neg]
    simp only [Bool.or_eq_true, beq_iff_eq, Bool.and_eq_true, decide_eq_true_eq,
      ← UInt8.toNat_inj, UInt8.le_iff_toNat_le, UInt8.reduceToNat]
    omega
  have hsign : (unsigned n.toNat).head? ≠ some 0x2D ∧ (unsigned n.toNat).head? ≠ some 0x2B := by
    rw [hct]
    simp only [head?_cons, ne_eq, Option.some.injEq, ← UInt8.toNat_inj, UInt8.reduceToNat]
    omega
  have hlt := n.toNat_lt
  simp only [strtoull, hblank, beq_iff_eq, hsign.1, hsign.2, or_self, if_false,
    decimalValue_unsigned]
  rw [if_neg (by omega)]
  simp

theorem jgetU64_natCast {o : Json} (hn : n < 2 ^ 64) (h : o.item key = some (jsonNat n)) :
    jgetU64 o key = some n := by
  rw [jgetU64, Json.num, h]
  simp only [jsonNat]
  rw [if_neg (not_lt.mpr (Rat.natCast_nonneg)), Rat.num_natCast, Rat.den_natCast]
  simp only [Nat.cast_one, Int.ediv_one, Int.toNat_natCast, Option.some.injEq]
  omega

theorem jgetStr_bytes {o : Json} {f : Field cap} (hcap : Nat.ble 1 cap = true)
    (h : o.item key = some (.string f.bytes)) : jgetStr cap o key hcap = some f := by
  rw [jgetStr, h]
  exact congrArg some (f.copy_bytes hcap)

/-- The document of a record is read as the record. -/
theorem recordRead_approvalJson {id : Bytes} {a : ApprovalRec} {line : Bytes}
    (hid : a.proposalId.bytes = id) (httl : a.ttlSeconds.toNat ≤ 86400)
    (hhash : artifactHashOk a.commandHash.bytes = true) :
    RecordRead id (approvalJson a) (hexEncode a.sig.bytes, line)
      { a with chainEntryHash := chainHashOfLine line } := by
  have hnid := a.deviceNodeId.toNat_lt
  have htime : 0 ∉ unsigned a.approvedAtNs.toNat :=
    notMem_unsigned (.inl (by decide)) _
  have hne : unsigned a.approvedAtNs.toNat ≠ [] :=
    ne_nil_of_length_pos (length_unsigned_pos _)
  exact
    { proposalId := jgetStr_bytes _ rfl
      commandHash := jgetStr_bytes _ rfl
      device := jgetStr_bytes _ rfl
      deviceNodeId := jgetU64_natCast (n := a.deviceNodeId.toNat) (by omega) rfl
      approvedAtNs := by
        rw [jgetU64Str, show (approvalJson a).item (text "approved_at_ns") =
          some (.string (unsigned a.approvedAtNs.toNat)) from rfl]
        simp only [cstr_eq_self htime]
        rw [if_neg hne, strtoull_unsigned]
      ttlSeconds := jgetU64_natCast (n := a.ttlSeconds.toNat) (by omega) rfl
      approverKeyId := jgetStr_bytes _ rfl
      operator := by rw [jgetStr_bytes (f := a.operator) _ rfl]; rfl
      sig := chainsignSigFromHex_hexEncode a.sig
      chainEntryHash := rfl
      id_eq := hid
      ttl_le := httl
      hash_ok := hhash }

theorem zero_notMem_hexEncode (b : Bytes) : 0 ∉ hexEncode b := fun h =>
  absurd (isLowerHex_of_mem_hexEncode h) (by decide)

/-- The document of a record can be printed. -/
theorem printable_approvalJson (hlc : lc.Standard) (a : ApprovalRec) :
    Printable lc nestingLimit (approvalJson a) := by
  have hnid := a.deviceNodeId.toNat_lt
  have httl := a.ttlSeconds.toNat_lt
  have htime : 0 ∉ unsigned a.approvedAtNs.toNat := notMem_unsigned (.inl (by decide)) _
  refine @Printable.object lc 999 _ ?_ ?_
  · simp only [forall_mem_cons, not_mem_nil, false_imp_iff, implies_true, and_true]
    decide +kernel
  simp only [forall_mem_cons, not_mem_nil, false_imp_iff, implies_true, and_true]
  exact ⟨.string a.proposalId.zero_notMem, .string a.commandHash.zero_notMem,
    .string a.device.zero_notMem, .number (numberPrintable_natCast hlc (by omega)),
    .string htime, .number (numberPrintable_natCast hlc (by omega)),
    .string a.approverKeyId.zero_notMem, .string a.operator.zero_notMem,
    .number (numberPrintable_natCast hlc (by decide)), .string (zero_notMem_hexEncode _)⟩

/-- The lines of a text. -/
theorem splitLines_lines {first second : Bytes} (h₁ : (0x0A : UInt8) ∉ first)
    (h₂ : (0x0A : UInt8) ∉ second) (rest : Bytes) :
    splitLines (first ++ 0x0A :: (second ++ 0x0A :: rest)) =
      (first, second, (splitLine rest).1) := by
  have hline : ∀ {l t : Bytes}, (0x0A : UInt8) ∉ l → splitLine (l ++ 0x0A :: t) = (l, t) := by
    intro l t hl
    have hall : ∀ c ∈ l, (c != 0x0A) = true := by
      intro c hc
      simp only [bne_iff_ne, ne_eq]
      rintro rfl
      exact hl hc
    rw [splitLine, takeWhile_append_of_pos hall, dropWhile_append_of_pos hall]
    simp
  simp only [splitLines, hline h₁, hline h₂]

/-- The file of a record holds its document, in front of its signature. -/
theorem holds_approvalFile {a : ApprovalRec} {o : Json} (ho : Printable lc nestingLimit o)
    (hobj : ∃ members, o = .object members) (hlen : (printValue lc o).length < 1700) :
    Holds (cjsonParse lc) (approvalFile (printValue lc o) a) o
      (hexEncode a.sig.bytes, (splitLine (hashLine a.chainEntryHash ++ [0x0A])).1) := by
  have hvisible : ∀ {c : UInt8}, c < 0x20 → c ∉ printValue lc o := fun hc hm =>
    absurd hc (UInt8.not_lt.mpr (ho.visible _ hm))
  have hhash : (hashLine a.chainEntryHash).length ≤ 64 ∧
      0 ∉ hashLine a.chainEntryHash := by
    unfold hashLine
    split
    · exact ⟨by simp, by decide⟩
    · have := a.chainEntryHash.length_lt
      exact ⟨by omega, a.chainEntryHash.zero_notMem⟩
  have htext : approvalFile (printValue lc o) a = printValue lc o ++ 0x0A ::
      (hexEncode a.sig.bytes ++ 0x0A :: (hashLine a.chainEntryHash ++ [0x0A])) := by
    have hassoc : printValue lc o ++ 0x0A :: hexEncode a.sig.bytes ++
        0x0A :: hashLine a.chainEntryHash ++ [0x0A] = printValue lc o ++ 0x0A ::
      (hexEncode a.sig.bytes ++ 0x0A :: (hashLine a.chainEntryHash ++ [0x0A])) := by simp
    rw [approvalFile, hassoc]
    refine snprintfS_eq_self ?_ ?_
    · simp only [mem_append, mem_cons, not_mem_nil, or_false, not_or]
      exact ⟨hvisible (by decide), by decide, zero_notMem_hexEncode _, by decide, hhash.2,
        by decide⟩
    · simp only [length_append, length_cons, length_nil, length_hexEncode, a.sig.length_eq]
      omega
  have hzero : 0 ∉ approvalFile (printValue lc o) a := zero_notMem_snprintfS 2200 _
  have hsize : (approvalFile (printValue lc o) a).length ≤ 2199 := length_snprintfS_le 2200 _
  refine ⟨printValue lc o, ?_, ?_, by omega, ?_⟩
  · rw [take_of_length_le (by omega), cstr_eq_self hzero, htext]
    exact splitLines_lines (hvisible (by decide))
      (fun h => absurd (isLowerHex_of_mem_hexEncode h) (by decide)) _
  · obtain ⟨c, t, hc, -⟩ := ho.head
    simp [hc]
  · obtain ⟨members, rfl⟩ := hobj
    rw [parseObject, cjsonParse_printValue ho]

/-- A result that the operation can have, in some state and circumstances. -/
def Answers (L : Libs) (o : Daemon.Op) (r : Daemon.Res o) : Prop :=
  ∃ env s i s', DaemonState.act L env s i o = some (s', r)

/-- The program can come to write this file. -/
def Writes (L : Libs) (name : FileName) (content : Bytes) {α : Type} (p : DProg α) : Prop :=
  p.Performs (I := Daemon) (Answers L) (Op.writeFile name content)

section
variable {L : Libs} {cfg : OnodeConfig} {name : FileName} {content : Bytes} {α β : Type}

@[simp] theorem writes_pure {a : α} : ¬ Writes L name content (pure a) := id

@[simp] theorem writes_perform {o : Op} :
    Writes L name content (Prog.perform (I := Daemon) o) ↔ o = .writeFile name content :=
  performs_perform

@[simp] theorem writes_bind {p : DProg α} {f : α → DProg β} :
    Writes L name content (p >>= f) ↔
      Writes L name content p ∨ ∃ a, p.Returns (Answers L) a ∧ Writes L name content (f a) :=
  performs_bind

theorem answers_print {o : Json} (h : Answers L (Op.print o) (some body)) :
    body = cstr (L.print o) := by
  obtain ⟨env, s, i, s', hact⟩ := h
  have hres : (if env.outOfMemory then none else some (cstr (L.print o))) = some body :=
    (Prod.mk.inj (Option.some.inj hact)).2
  split at hres
  · cases hres
  · exact (Option.some.inj hres).symm

theorem printWithin_returns {o : Json} (h : (printWithin cap o).Returns (Answers L) (some body)) :
    body = cstr (L.print o) ∧ body.length < cap := by
  simp only [printWithin, returns_bind, returns_pure] at h
  obtain ⟨r, hr, hbody⟩ := h
  obtain ⟨t, rfl, ht⟩ := Option.bind_eq_some_iff.mp hbody
  split at ht
  · cases ht
  cases ht
  exact ⟨answers_print (returns_perform.mp hr), by omega⟩

/-- An operation that writes no file, in front of a program. -/
theorem Writes.of_perform_bind {o : Op} {f : Op.Res o → DProg β}
    (ho : o ≠ .writeFile name content)
    (h : Writes L name content (Prog.perform (I := Daemon) o >>= f)) :
    ∃ r, Writes L name content (f r) := by
  rcases writes_bind.mp h with h | ⟨r, -, h⟩
  · exact absurd (writes_perform.mp h) ho
  · exact ⟨r, h⟩

theorem printWithin_writes_nothing {o : Json} : ¬ Writes L name content (printWithin cap o) := by
  intro h
  obtain ⟨r, h⟩ := Writes.of_perform_bind (by simp) h
  exact writes_pure h

/-- What `virp_approval_write_record` writes. -/
theorem virpApprovalWriteRecord_writes {a : ApprovalRec}
    (h : Writes L name content (virpApprovalWriteRecord a)) : name = .approval a.proposalId.bytes ∧
      content = approvalFile (cstr (L.print (approvalJson a))) a ∧
      (cstr (L.print (approvalJson a))).length < 1700 := by
  unfold virpApprovalWriteRecord at h
  split at h
  · exact absurd h writes_pure
  obtain ⟨dirs, h⟩ := Writes.of_perform_bind (by simp) h
  cases dirs with
  | some err => exact absurd h writes_pure
  | none =>
    rcases writes_bind.mp h with h | ⟨body, hbody, h⟩
    · exact absurd h printWithin_writes_nothing
    cases body with
    | none => exact absurd h writes_pure
    | some body =>
      obtain ⟨rfl, hlen⟩ := printWithin_returns hbody
      obtain ⟨hname, hcontent⟩ := Op.writeFile.inj (writes_perform.mp h)
      exact ⟨hname.symm, hcontent.symm, hlen⟩

/-- The chain entry of an approval changes nothing but the entry's hash in the record. -/
theorem approvalChainEntry_returns {a a' : ApprovalRec}
    (h : (approvalChainEntry L cfg a).Returns (Answers L) (.ok a')) :
    ∃ hash, a' = { a with chainEntryHash := hash } := by
  unfold approvalChainEntry at h
  split at h
  · obtain rfl := Except.ok.inj (returns_pure.mp h)
    exact ⟨_, rfl⟩
  obtain ⟨body, -, h⟩ := returns_bind.mp h
  cases body with
  | none => cases returns_pure.mp h
  | some body =>
    obtain ⟨r, -, h⟩ := returns_bind.mp h
    cases r with
    | error err => cases returns_pure.mp h
    | ok e =>
      obtain rfl := Except.ok.inj (returns_pure.mp h)
      exact ⟨e.chainEntryHash, rfl⟩

theorem approvalChainEntry_writes_nothing {a : ApprovalRec} :
    ¬ Writes L name content (approvalChainEntry L cfg a) := by
  intro h
  unfold approvalChainEntry at h
  split at h
  · exact writes_pure h
  rcases writes_bind.mp h with h | ⟨body, -, h⟩
  · exact printWithin_writes_nothing h
  cases body with
  | none => exact writes_pure h
  | some body =>
    obtain ⟨r, h⟩ := Writes.of_perform_bind (by simp) h
    exact writes_pure h

theorem approvalHasOutcome_writes_nothing {id : Bytes} :
    ¬ Writes L name content (approvalHasOutcome cfg id) := by
  intro h
  unfold approvalHasOutcome at h
  split at h
  · exact writes_pure h
  · obtain ⟨r, h⟩ := Writes.of_perform_bind (by simp) h
    exact writes_pure h

/-- What the end of a submit writes. -/
theorem recordApproval_writes {a : ApprovalRec}
    (h : Writes L name content (recordApproval L cfg a)) :
    ∃ hash, Writes L name content (virpApprovalWriteRecord { a with chainEntryHash := hash }) := by
  rcases writes_bind.mp h with h | ⟨r, hr, h⟩
  · exact absurd h approvalChainEntry_writes_nothing
  cases r with
  | error err => exact absurd h writes_pure
  | ok a' =>
    obtain ⟨hash, rfl⟩ := approvalChainEntry_returns hr
    rcases writes_bind.mp h with h | ⟨err, -, h⟩
    · exact ⟨hash, h⟩
    · exact absurd h writes_pure

/-- What the critical section of a submit writes. -/
theorem submitLocked_writes {id : Bytes} {a : ApprovalRec}
    (h : Writes L name content (submitLocked L cfg id a)) :
    ∃ hash, Writes L name content (virpApprovalWriteRecord { a with chainEntryHash := hash }) := by
  rcases writes_bind.mp h with h | ⟨consumed, -, h⟩
  · exact absurd h approvalHasOutcome_writes_nothing
  split at h
  · exact absurd h writes_pure
  obtain ⟨probe, h⟩ := Writes.of_perform_bind (by simp) h
  cases probe with
  | error _ => exact recordApproval_writes h
  | ok _ =>
    obtain ⟨file, h⟩ := Writes.of_perform_bind (by simp) h
    exact absurd h writes_pure

/-- What a submit writes: the record of a challenge that was loaded, and whose bytes the
signature is over. -/
theorem submitSigned_writes {ent : Approver} {id : Bytes}
    (h : Writes L name content (submitSigned L cfg ent id sig)) :
    ∃ read ch hash, loadChallenge L.parse id read = .ok ch ∧
      approverVerify L.C ent ch.canonical sig = true ∧ Writes L name content
        (virpApprovalWriteRecord { approvalOf ch ent sig with chainEntryHash := hash }) := by
  obtain ⟨read, h⟩ := Writes.of_perform_bind (by simp) h
  split at h
  · exact absurd h writes_pure
  rename_i ch hch
  split at h
  · exact absurd h writes_pure
  rename_i hsig
  obtain ⟨-, h⟩ := Writes.of_perform_bind (by simp) h
  rcases writes_bind.mp h with h | ⟨r, -, h⟩
  · obtain ⟨hash, hwrites⟩ := submitLocked_writes h
    exact ⟨read, ch, hash, hch, by simpa using hsig, hwrites⟩
  · obtain ⟨-, h⟩ := Writes.of_perform_bind (by simp) h
    exact absurd h writes_pure

theorem virpApprovalSubmit_writes {reg : List Approver} {id : Bytes}
    (h : Writes L name content (virpApprovalSubmit L cfg reg id keyId sig)) :
    ∃ ent ∈ reg, Writes L name content (submitSigned L cfg ent id sig) := by
  unfold virpApprovalSubmit at h
  split at h
  · exact absurd h writes_pure
  rcases writes_bind.mp h with h | ⟨consumed, -, h⟩
  · exact absurd h approvalHasOutcome_writes_nothing
  split at h
  · exact absurd h writes_pure
  split at h
  · exact absurd h writes_pure
  rename_i ent hent
  split at h
  · exact absurd h writes_pure
  · exact ⟨ent, mem_of_find?_eq_some hent, h⟩

end

/-- A challenge that loads carries the id it was looked up by, and the bytes its fields
spell. -/
theorem loadChallenge_ok {parse : Bytes → Option Json} {id : Bytes} {read : Except Errno Bytes}
    {ch : Challenge} (h : loadChallenge parse id read = .ok ch) :
    ch.proposalId.bytes = id ∧ ch.ttlSeconds.toNat ≤ 86400 ∧
      artifactHashOk ch.commandHash.bytes = true ∧
      (SignedFields.mk ch.proposalId.bytes ch.commandHash.bytes ch.deviceNodeId ch.approvedAtNs
        ch.ttlSeconds).payload = some ch.canonical := by
  unfold loadChallenge at h
  split at h
  · cases h
  · cases h
  split at h
  · cases h
  split at h
  · rename_i pid hash device nid at_ ttl _ _ _ _ _ _
    split at h
    · cases h
    rename_i hbad
    simp only [not_or, Bool.not_eq_false, not_not] at hbad
    split at h
    · cases h
    rename_i canonical hcanonical
    cases h
    refine ⟨hbad.2.2.1, ?_, hbad.2.2.2, hcanonical⟩
    rw [toNat_toUInt32 (by omega)]
    omega
  · cases h

/-- **What a submit writes is read back as it was signed.** -/
theorem submitted_record_loads {L : Libs} (hlc : lc.Standard) (hprint : L.print = printValue lc)
    (hparse : L.parse = cjsonParse lc) {cfg : OnodeConfig} {reg : List Approver} {id : Bytes}
    {name : FileName} {content : Bytes}
    (h : Writes L name content (virpApprovalSubmit L cfg reg id keyId sig)) :
    name = .approval id ∧ ∃ ent ∈ reg, ∃ payload a, approverVerify L.C ent payload sig = true ∧
      approvalRecordLoad L.parse id (.ok content) = .ok a ∧ a.sig = sig ∧
      a.signedFields.payload = some payload := by
  obtain ⟨ent, hent, hsigned⟩ := virpApprovalSubmit_writes h
  obtain ⟨read, ch, hash, hch, hsig, hwrites⟩ := submitSigned_writes hsigned
  obtain ⟨hname, hcontent, hlen⟩ := virpApprovalWriteRecord_writes hwrites
  obtain ⟨hid, httl, hhash, hpayload⟩ := loadChallenge_ok hch
  have hp := printable_approvalJson hlc { approvalOf ch ent sig with chainEntryHash := hash }
  have hzero := cstr_eq_self fun hz =>
    absurd (hp.visible 0 hz) (show ¬ (0x20 : UInt8) ≤ 0 by decide)
  rw [hprint, hzero] at hcontent hlen
  have hholds := holds_approvalFile (a := { approvalOf ch ent sig with chainEntryHash := hash }) hp
    ⟨_, rfl⟩ hlen
  rw [← hcontent, ← hparse] at hholds
  refine ⟨by rw [hname, ← hid]; rfl, ent, hent, ch.canonical, _, hsig,
    approvalRecordLoad_eq_ok_iff.mpr ⟨_, _, hholds, recordRead_approvalJson hid httl hhash⟩, rfl,
    hpayload⟩

/-! ## What a record binds -/

/-- **An approval record binds what was signed.**  A record that verifies was signed by an
enabled approver for this proposal, command and device, with the record's own date and
lifetime; the signed bytes determine those fields; a record that was submitted is read back
with the bytes that were signed.  A record whose signed fields are changed afterwards fails
exactly if one of them is read differently. -/
theorem approval_record_binds {L : Libs} {lc : Libc} (hlc : lc.Standard)
    (hprint : L.print = printValue lc) (hparse : L.parse = cjsonParse lc) {reg : List Approver}
    {signed : Approver → Bytes → Prop} (hU : Unforgeable L.C reg signed) :
    (∀ id t now read a, virpApprovalVerify L.C L.parse reg id t now read = .ok a →
      ∃ ent ∈ reg, ent.enabled = true ∧ ∃ hash payload,
        commandHashHex L.C t.command t.typedProfile = some hash ∧
        (SignedFields.mk id hash t.deviceNodeId a.approvedAtNs a.ttlSeconds).payload =
          some payload ∧ signed ent payload) ∧
    (∀ (f g : SignedFields) (c : Bytes), f.payload = some c → g.payload = some c → f = g) ∧
    (∀ cfg id keyId sig name content,
      Writes L name content (virpApprovalSubmit L cfg reg id keyId sig) →
      name = .approval id ∧ ∃ ent ∈ reg, ∃ payload a, approverVerify L.C ent payload sig = true ∧
        approvalRecordLoad L.parse id (.ok content) = .ok a ∧ a.sig = sig ∧
        a.signedFields.payload = some payload) ∧
    (∀ id t now file file' o rest a,
      virpApprovalVerify L.C L.parse reg id t now (.ok file) = .ok a →
      Holds L.parse file o rest → (splitLines (cstr (file'.take 4095))).2 = rest →
      (∀ o', Holds L.parse file' o' rest → SignedFieldsChanged o o') →
      ((∃ err, virpApprovalVerify L.C L.parse reg id t now (.ok file') = .error err) ↔
        ¬ ∃ o', Holds L.parse file' o' rest ∧ ReadAlike o o')) := by
  refine ⟨?_, ?_, ?_, ?_⟩
  · intro id t now read a h
    exact signed_of_virpApprovalVerify hU h
  · intro f g c hf hg
    exact SignedFields.payload_inj hf hg
  · intro cfg id keyId sig name content h
    exact submitted_record_loads hlc hprint hparse h
  · intro id t now file file' o rest a h ho hlines hc
    exact changed_record_fails_iff hU h ho hlines hc

namespace ApprovalSample

/-- A C library that knows the natural numbers. -/
def libc : Libc where
  strtod t := match decimalValue t with
    | some n => (.finite n, t.length)
    | none => (.finite 0, 0)
  formatG _ q := unsigned q.num.toNat

theorem libc_standard : libc.Standard where
  strtod_unsigned n _ := by simp only [libc, decimalValue_unsigned]
  formatG_natCast n _ := by simp only [libc, Rat.num_natCast, Int.toNat_natCast]

def id : Bytes := text "00112233445566778899aabbccddeeff"

def seed : Bytes := List.replicate 32 0x07

def publicKey : Bytes := text "ea4a6c63e29c520abef5507b132ec5f9954776aebebe7b92421eea691446d22c"

def commandHash : Bytes :=
  text "8fc32918733aa1ae25aa0aa085186186376e4eeb7c9608fcaf0ccc0464a6bab7"

def sigHex : Bytes := text ("cd6716553a6772893476ce1dd8ff312c59601e8cf96514c445569517bcf4b2eb" ++
  "c95a074bc3bbad9ed91bae1e5471b4af50ec19dfcea4da3177d4dcfbad477704")

/-- The approval of `reload in 5` on the device with node id 7. -/
def record : ApprovalRec where
  proposalId := .copy 33 id
  commandHash := .copy 65 commandHash
  device := .copy 64 (text "r1")
  deviceNodeId := 7
  approvedAtNs := 1000000000000
  ttlSeconds := 900
  approverKeyId := .copy 33 (text "fe812c12f3ab4ce6ac5db69ac352f906")
  operator := .copy 64 (text "ops")
  sig := signatureOfHex sigHex
  chainEntryHash := .empty 65

/-- The bytes that were signed. -/
def payload : Bytes := (record.signedFields.payload).getD []

def crypto : Crypto :=
  .known [(text "reload in 5", commandHash)] [] [(seed, publicKey)] [((seed, payload), sigHex)]

def libs : Libs := ⟨crypto, printValue libc, cjsonParse libc, fun _ _ b => b, fun b => b⟩

def approver : Approver :=
  ⟨record.approverKeyId, .ed25519 (digestOfHex publicKey).bytes, record.operator, true⟩

def target : ApprovalTarget := ⟨text "r1", 7, text "reload in 5", none⟩

/-- The one signature that verifies is the one over the payload. -/
theorem unforgeable : Unforgeable libs.C [approver] (fun _ p => p = payload) := by
  have only : ∀ ent ∈ [approver], ∀ p sig, approverVerify libs.C ent p sig = true →
      p = payload := by
    intro ent hent p sig h
    obtain rfl := mem_singleton.mp hent
    by_contra hne
    have hother : ((seed, p) == (seed, payload)) = false :=
      beq_eq_false_iff_ne.mpr fun he => hne (Prod.mk.inj he).2
    have hlookup : List.lookup (seed, p) [((seed, payload), sigHex)] = none := by
      simp only [lookup_cons, lookup_nil, hother]
    simp [approverVerify, approver, libs, crypto, Crypto.known, hlookup] at h
  exact ⟨only, fun ent hent p p' sig h h' => (only ent hent p sig h).trans
    (only ent hent p' sig h').symm⟩

/-- The document with another text in place of the command's hash. -/
def withHash (hash : Bytes) : Json :=
  .object [(text "proposal_id", .string record.proposalId.bytes),
    (text "command_hash", .string hash), (text "device", .string record.device.bytes),
    (text "device_node_id", jsonNat record.deviceNodeId.toNat),
    (text "approved_at_ns", jsonU64Str record.approvedAtNs),
    (text "ttl_seconds", jsonNat record.ttlSeconds.toNat),
    (text "approver_key_id", .string record.approverKeyId.bytes),
    (text "operator", .string record.operator.bytes), (text "body_version", jsonNat 2),
    (text "approver_signature", .string (hexEncode record.sig.bytes))]

theorem printable_withHash (h : 0 ∉ hash) :
    Printable libc nestingLimit (withHash hash) := by
  have hnat : ∀ n < 10 ^ 15, Printable libc 999 (jsonNat n) := fun n hn =>
    .number (numberPrintable_natCast libc_standard hn)
  refine @Printable.object libc 999 _ ?_ ?_
  · simp only [forall_mem_cons, not_mem_nil, false_imp_iff, implies_true, and_true]
    decide +kernel
  · simp only [forall_mem_cons, not_mem_nil, false_imp_iff, implies_true, and_true]
    exact ⟨.string record.proposalId.zero_notMem, .string h, .string record.device.zero_notMem,
      hnat 7 (by decide), .string (by decide +kernel), hnat 900 (by decide),
      .string record.approverKeyId.zero_notMem, .string record.operator.zero_notMem,
      hnat 2 (by decide), .string (zero_notMem_hexEncode _)⟩

/-- The record's file, with such a document. -/
def file (hash : Bytes) : Bytes := approvalFile (printValue libc (withHash hash)) record

/-- The lines behind the document. -/
def lines : Bytes × Bytes := (hexEncode record.sig.bytes, [0x2D])

theorem holds_file (h : 0 ∉ hash) (hlen : (printValue libc (withHash hash)).length < 1700) :
    Holds libs.parse (file hash) (withHash hash) lines := by
  have hholds := holds_approvalFile (a := record) (printable_withHash h) ⟨_, rfl⟩ hlen
  rwa [show (splitLine (hashLine record.chainEntryHash ++ [0x0A])).1 = [0x2D] by decide] at hholds

theorem signedFieldsChanged_withHash (hash : Bytes) :
    SignedFieldsChanged (approvalJson record) (withHash hash) := by
  intro key hkey
  have hne : (text "command_hash" == key) = false := by
    refine beq_eq_false_iff_ne.mpr ?_
    rintro rfl
    exact hkey (by decide +kernel)
  simp only [withHash, approvalJson, Json.item, find?_cons, hne]

/-- What the checks find in the record. -/
theorem record_checks : record.proposalId.bytes = id ∧ proposalIdValid id = true ∧
    record.ttlSeconds.toNat ≤ 86400 ∧ artifactHashOk record.commandHash.bytes = true ∧
    { record with chainEntryHash := chainHashOfLine [0x2D] } = record ∧
    checkApproval libs.C [approver] target 1000000000001 record = none := by
  decide +kernel

/-- With a text that is cut to the hash, the document is read as the record. -/
theorem recordRead_withHash (h : Field.copy 65 hash = record.commandHash) :
    RecordRead id (withHash hash) lines record := by
  obtain ⟨hid, -, httl, hhash, hrecord, -⟩ := record_checks
  have hread := @recordRead_approvalJson id record [0x2D] hid httl hhash
  rw [hrecord] at hread
  refine hread.of_readAlike (signedFieldsChanged_withHash hash) ?_
  exact
    { proposalId := rfl
      commandHash := (show jgetStr 65 (withHash hash) (text "command_hash") =
        some (.copy 65 hash) from rfl).trans ((congrArg some h).trans hread.commandHash.symm)
      deviceNodeId := rfl
      approvedAtNs := rfl
      ttlSeconds := rfl }

/-- The hash, and one with two more digits, fit the document and are cut to the same field. -/
theorem hash_checks : ∀ hash ∈ [commandHash, commandHash ++ text "00"], 0 ∉ hash ∧
    (printValue libc (withHash hash)).length < 1700 ∧ Field.copy 65 hash = record.commandHash := by
  decide +kernel

theorem verifies (h : 0 ∉ hash) (hlen : (printValue libc (withHash hash)).length < 1700)
    (hcopy : Field.copy 65 hash = record.commandHash) :
    virpApprovalVerify libs.C libs.parse [approver] id target 1000000000001 (.ok (file hash)) =
      .ok record :=
  virpApprovalVerify_eq_ok_iff.mpr ⟨record_checks.2.1, approvalRecordLoad_eq_ok_iff.mpr
    ⟨_, _, holds_file h hlen, recordRead_withHash hcopy⟩, record_checks.2.2.2.2.2⟩

/-- A daemon without a chain, and circumstances in which nothing fails. -/
def config : OnodeConfig where
  nodeId := 1
  serverId := .empty 64
  devices := []
  drivers _ := none
  gateDefaultMode := .enforce
  gateOverrides := []
  gateMaxTier := .green
  uidCeilings := []
  evidenceRequired := false
  approvalDir := true
  approvers := some [approver]
  chain := none
  obsKey := none
  executeV3 := false
  policy := none

def env : DaemonEnv where
  append := ⟨fun _ => false, .ok, 0, 0, []⟩
  queryFails := false
  now := 1000000000000
  time := 0
  readError := none
  writeFails := false
  dirsError := none
  storePresent := true
  random := none
  outOfMemory := false
  buildError := none
  keyFails := false
  policy := ⟨0, 0, false, false, false, false, false, false, false, false⟩
  finishFails := false
  connected := false
  health := none
  driver := ⟨none, ⟨[], false, 0, .empty 256, .unset, false, false, false⟩⟩
  restart := config

/-- A state with these files. -/
def state (files : FileName → Option Bytes) : DaemonState where
  cfg := config
  chain := .empty
  files := files
  session := .init (.empty 64)
  degraded := false
  seqNum := 0
  journal := ⟨false, 0, 0, 0, [], 0⟩
  consumeLock := none
  submitLock := none

/-- The challenge that was signed. -/
def challenge : Challenge :=
  ⟨record.proposalId, payload, record.device, .empty 1024, record.commandHash, .empty 16,
    record.deviceNodeId, record.approvedAtNs, record.ttlSeconds⟩

theorem performs_writes {o : Op} {r : Op.Res o} {β : Type} {f : Op.Res o → DProg β}
    {name : FileName} {content : Bytes} (hr : Answers libs o r)
    (h : Writes libs name content (f r)) :
    Writes libs name content (Threads.Prog.perform (I := Daemon) o >>= f) :=
  writes_bind.mpr (.inr ⟨r, returns_perform.mpr hr, h⟩)

/-- What the submission finds in the challenge and prints. -/
theorem submit_checks :
    loadChallenge libs.parse id (.ok (printValue libc (challengeJson challenge))) = .ok challenge ∧
    approverRegistryFindAny [approver] record.approverKeyId.bytes = some approver ∧
    approverVerify libs.C approver challenge.canonical record.sig = true ∧
    approvalOf challenge approver record.sig = record ∧
    cstr (libs.print (approvalJson record)) = printValue libc (approvalJson record) ∧
    (printValue libc (approvalJson record)).length < 1700 := by
  decide +kernel

/-- The signature over the challenge is submitted. -/
theorem submit_writes :
    Writes libs (.approval id) (approvalFile (printValue libc (approvalJson record)) record)
      (virpApprovalSubmit libs config [approver] id record.approverKeyId.bytes record.sig) := by
  obtain ⟨hid, hvalid, -⟩ := record_checks
  obtain ⟨hload, hfind, hverify, hrecord, hprinted, hfits⟩ := submit_checks
  have hread : ∀ name b, Answers libs (Op.readFile name) (Except.ok b) := fun _ b =>
    ⟨env, state fun _ => some b, 0, _, rfl⟩
  have hmissing : ∀ name, Answers libs (Op.readFile name) (Except.error Errno.noent) := fun _ =>
    ⟨env, state fun _ => none, 0, _, rfl⟩
  have hlock : Answers libs Op.lockSubmit () := ⟨env, state fun _ => none, 0, _, rfl⟩
  have hdirs : Answers libs Op.ensureDirs none := ⟨env, state fun _ => none, 0, _, rfl⟩
  have hprint : ∀ o, Answers libs (Op.print o) (some (cstr (libs.print o))) := fun _ =>
    ⟨env, state fun _ => none, 0, _, rfl⟩
  have hbody : (printWithin 1700 (approvalJson record)).Returns (Answers libs)
      (some (printValue libc (approvalJson record))) := by
    refine returns_bind.mpr ⟨_, returns_perform.mpr (hprint _), ?_⟩
    rw [returns_pure, Option.bind_some, hprinted, if_neg (Nat.not_le.mpr hfits)]
  unfold virpApprovalSubmit
  rw [if_neg (by simp [hvalid])]
  refine writes_bind.mpr (.inr ⟨false, rfl, ?_⟩)
  simp only [Bool.false_eq_true, if_false, hfind]
  rw [if_neg (by decide)]
  refine performs_writes (hread _ (printValue libc (challengeJson challenge))) ?_
  simp only [hload]
  rw [if_neg (by simp [hverify])]
  refine performs_writes hlock (writes_bind.mpr (.inl (writes_bind.mpr (.inr ⟨false, rfl, ?_⟩))))
  rw [if_neg (by decide), hrecord]
  refine performs_writes (hmissing _) ?_
  refine writes_bind.mpr (.inr ⟨.ok record, rfl, writes_bind.mpr (.inl ?_)⟩)
  unfold virpApprovalWriteRecord
  rw [if_neg (by simp [hid, hvalid])]
  refine performs_writes hdirs (writes_bind.mpr (.inr ⟨_, hbody, ?_⟩))
  exact writes_perform.mpr (congrArg (Op.writeFile · _) (congrArg FileName.approval hid))

end ApprovalSample

section
open ApprovalSample

/-- Two more digits behind the hash of the command: another stored field, the same record. -/
theorem longer_hash_verifies :
    Unforgeable libs.C [approver] (fun _ p => p = payload) ∧
    Holds libs.parse (file ApprovalSample.commandHash) (withHash ApprovalSample.commandHash) lines ∧
    Holds libs.parse (file (ApprovalSample.commandHash ++ text "00"))
      (withHash (ApprovalSample.commandHash ++ text "00")) lines ∧
    SignedFieldsChanged (withHash ApprovalSample.commandHash)
      (withHash (ApprovalSample.commandHash ++ text "00")) ∧
    ApprovalSample.commandHash ++ text "00" ≠ ApprovalSample.commandHash ∧
    virpApprovalVerify libs.C libs.parse [approver] ApprovalSample.id target 1000000000001
      (.ok (file ApprovalSample.commandHash)) = .ok record ∧
    virpApprovalVerify libs.C libs.parse [approver] ApprovalSample.id target 1000000000001
      (.ok (file (ApprovalSample.commandHash ++ text "00"))) = .ok record := by
  obtain ⟨hzero, hlen, hcopy⟩ := hash_checks _ mem_cons_self
  obtain ⟨hzero', hlen', hcopy'⟩ := hash_checks _ (mem_cons_of_mem _ mem_cons_self)
  refine ⟨unforgeable, holds_file hzero hlen, holds_file hzero' hlen', ?_,
    fun h => absurd (append_right_eq_self.mp h) (by decide), verifies hzero hlen hcopy,
    verifies hzero' hlen' hcopy'⟩
  intro key hkey
  rw [signedFieldsChanged_withHash _ key hkey, signedFieldsChanged_withHash _ key hkey]

/-- The record of `reload in 5`, as it is submitted, and with another hash of a command. -/
theorem approval_record_binds_reload :
    (∃ ent ∈ [approver], ent.enabled = true ∧ ∃ hash p,
      commandHashHex libs.C target.command target.typedProfile = some hash ∧
      (SignedFields.mk ApprovalSample.id hash target.deviceNodeId record.approvedAtNs
        record.ttlSeconds).payload = some p ∧ p = payload) ∧
    (∃ a, approvalRecordLoad libs.parse ApprovalSample.id
      (.ok (approvalFile (printValue libc (approvalJson record)) record)) = .ok a ∧
      a.sig = record.sig) ∧
    ∃ err, virpApprovalVerify libs.C libs.parse [approver] ApprovalSample.id target 1000000000001
      (.ok (file (text "9fc32918733aa1ae25aa0aa085186186376e4eeb7c9608fcaf0ccc0464a6bab7"))) =
        .error err := by
  obtain ⟨hsigned, -, hsubmit, hchanged⟩ :=
    @approval_record_binds libs libc libc_standard rfl rfl [approver] _ unforgeable
  obtain ⟨hzero, hlen, hcopy⟩ := hash_checks _ mem_cons_self
  have hverifies := verifies hzero hlen hcopy
  refine ⟨hsigned _ _ _ _ _ hverifies, ?_, ?_⟩
  · obtain ⟨-, ent, -, p, a, -, hload, hsig, -⟩ := hsubmit _ _ _ _ _ _ submit_writes
    exact ⟨a, hload, hsig⟩
  · have hother := @holds_file
      (text "9fc32918733aa1ae25aa0aa085186186376e4eeb7c9608fcaf0ccc0464a6bab7")
      (by decide +kernel) (by decide +kernel)
    have hlines := hother
    obtain ⟨line, hsplit, -⟩ := hlines
    refine (hchanged _ _ _ _ _ _ _ _ hverifies (holds_file hzero hlen) (by rw [hsplit]) ?_).mpr ?_
    · intro o' ho'
      obtain ⟨rfl, -⟩ := hother.unique ho'
      intro key hkey
      rw [signedFieldsChanged_withHash _ key hkey, signedFieldsChanged_withHash _ key hkey]
    · rintro ⟨o', ho', halike⟩
      obtain ⟨rfl, -⟩ := hother.unique ho'
      have hread := halike.commandHash
      rw [show jgetStr 65 (withHash ApprovalSample.commandHash) (text "command_hash") =
        some (.copy 65 ApprovalSample.commandHash) from rfl] at hread
      exact absurd (Option.some.inj hread) (by decide +kernel)

end

end Virp
