import Virp.ChainRuns
import Virp.ChainAgreement
import Mathlib.Data.Set.Function

/-! # What the daemon writes, it can continue and verify

The converse of tamper evidence: along every run of appends, a session's rows are
exactly its successful appends, its head names the last of them, the next append is
accepted, and the session verifies.

Verification with the chain key can then fail for one reason only, the grading of
evidence records against each other; `Honest.valid_iff_agrees` says so.
-/
namespace Virp

open List Logged

variable {C : Crypto} {parse : Bytes → Option Json} {K : Bytes} {db : Db} {log : List Logged}

/-- Every stored body hashes to the commitment it is stored under. -/
def BodiesBound (C : Crypto) (db : Db) : Prop :=
  ∀ a ∈ db.artifacts.rows,
    (0 : UInt8) ∉ a.artifactContent ∧ artifactDigest C a.artifactContent = some a.artifactHash

variable {s : Bytes}

variable {h v : Handle} {call : AppendCall} {e : Entry}

theorem BodiesBound.append (hb : BodiesBound C db) {env : Env} {db' : Db}
    (D : RowDone C h env call s db db' e) (hbody : (ChainOp.append h env call).BodyCommitted C) :
    BodiesBound C db' := by
  intro a ha
  rcases D.artifacts_cases with hsame | hart
  · rw [hsame] at ha
    exact hb a ha
  unfold artifactStore at hart
  cases hc : cstr (call.artifactContent.getD []) with
  | nil =>
    rw [hc] at hart
    have hsame := congrArg Db.artifacts (Except.ok.inj hart)
    simp only at hsame
    rw [← hsame] at ha
    exact hb a ha
  | cons b body =>
    rw [hc] at hart
    simp only at hart
    split at hart
    · cases hart
    have hsame := congrArg Db.artifacts (Except.ok.inj hart)
    simp only at hsame
    rw [← hsame] at ha
    rcases Table.mem_insertOrIgnore ha with ha | rfl
    · exact hb a ha
    · have hne : cstr (call.artifactContent.getD []) ≠ [] := by rw [hc]; exact cons_ne_nil _ _
      exact ⟨hc ▸ zero_notMem_cstr _, hc ▸ hbody hne⟩

/-- Along a run in which every body hashes to its commitment, every stored body
does. -/
theorem bodiesBound_run {ops : List ChainOp} (hops : ∀ op ∈ ops, op.BodyCommitted C) :
    BodiesBound C (run C ops).store.committed := by
  refine run_induction C (P := fun r => BodiesBound C r.store.committed) ?_ ?_
  · intro a ha
    cases ha
  intro r op hop hb
  rcases @runStep_cases C r op with ⟨hdb, -⟩ | ⟨h, fails, id, hash, -, hdb, -⟩ |
    ⟨h, env, call, db', e, rfl, hl, hrun⟩
  · rw [hdb]
    exact hb
  · rw [hdb]
    exact hb
  · rw [hrun, afterCommit_eq]
    have hb' := hb.append hl.row (hops _ hop)
    exact hb'

/-- The operation does not lose its transaction to the read of the last entry. -/
def ChainOp.KeepsTransaction : ChainOp → Prop
  | .append _ env _ => env.fails .getLastRolledBack = false
  | _ => True

/-- In a run that loses no transaction, the appends that landed are those that returned OK. -/
theorem acked_run {ops : List ChainOp} (hops : ∀ op ∈ ops, op.KeepsTransaction) :
    ∀ i ∈ (run C ops).log, i.acked = true := by
  refine run_induction C (P := fun r => ∀ i ∈ r.log, i.acked = true) ?_ ?_
  · intro i hi
    cases hi
  intro r op hop hr
  rcases @runStep_cases C r op with ⟨-, hlog⟩ | ⟨h, fails, id, hash, -, -, hlog⟩ |
    ⟨h, env, call, db', e, rfl, hl, hrun⟩
  · rwa [hlog]
  · rwa [hlog]
  · rw [hrun]
    intro i hi
    rcases mem_append.mp hi with hi | hi
    · exact hr i hi
    rw [mem_singleton.mp hi]
    by_contra hack
    exact Bool.false_ne_true ((hops _ hop).symm.trans (hl.unacked (Bool.eq_false_of_not_eq_true hack)).1)

/-- A body that hashes to its commitment is never found broken. -/
theorem bindingOk_of_bodiesBound {env : ReadEnv} (hf : env.Fine) (hb : BodiesBound C db) (e : Entry) :
    bindingOk C env db e = true := by
  unfold bindingOk verifyBinding
  simp only [hf _ _, Bool.false_eq_true, if_false]
  cases hc : db.artifactContent e.artifactId.bytes e.artifactHash.bytes with
  | none => rfl
  | some content =>
    obtain ⟨a, hfind, rfl⟩ := Option.map_eq_some_iff.mp hc
    obtain ⟨h0, hdigest⟩ := hb a (mem_of_find?_eq_some hfind)
    have hkey := find?_some hfind
    simp only [Bool.and_eq_true, beq_iff_eq] at hkey
    simp only [cstr_eq_self h0, hdigest, hkey.2]
    split_ifs <;> simp_all

/-! ## The entries of a session -/

/-- The session id fits its column and is not the beginning of a longer id with
entries in that column. -/
def Unaliased (log : List Logged) (s : Bytes) : Prop :=
  s.length ≤ 63 ∧ ∀ i ∈ log, i.session.take 63 = s → i.session = s

theorem Honest.group_eq_ofSession (H : Honest C K db log) (hu : Unaliased log s) :
    group log s = ofSession log s := by
  refine filter_congr ?_
  intro i hi
  rw [Bool.eq_iff_iff, beq_iff_eq, beq_iff_eq, (H.sealed i hi).column_eq]
  constructor
  · exact hu.2 i hi
  · rintro rfl
    exact take_of_length_le hu.1

theorem mem_ofSession {i : Logged} (h : i ∈ ofSession log s) : i ∈ log ∧ i.session = s := by
  simpa [ofSession] using h

/-- **A session's appends are linked** from its genesis hash. -/
theorem Honest.linked_ofSession (H : Honest C K db log) (hu : Unaliased log s) :
    LinkedEntries 0 (C.sha256Hex (genesisText s)) ((ofSession log s).map Logged.entry) := by
  have hl := H.linked s
  rw [H.group_eq_ofSession hu] at hl
  cases ho : ofSession log s with
  | nil => trivial
  | cons i is =>
    rw [ho] at hl
    obtain ⟨⟨stack, hlink⟩, -⟩ := hl
    have hs : i.session = s := (mem_ofSession (ho ▸ mem_cons_self)).2
    rw [hs, computeGenesisHash_of_fits (by have := hu.1; omega)] at hlink
    exact hlink

/-- The last append of a session has the number of those before it. -/
theorem Honest.sequence_last (H : Honest C K db log) (hu : Unaliased log s) {l : List Logged}
    {j : Logged} (hl : ofSession log s = l ++ [j]) : j.entry.sequence = l.length := by
  have hlink := H.linked_ofSession hu
  rw [hl, map_append] at hlink
  have hseq := (HashChain.linked_concat.mp hlink).2.1
  rwa [length_map, Int.zero_add] at hseq

/-- A stored entry reads back as itself, up to its signature. -/
theorem readEntryFromStmt_row (sigs : Bool) (i : Logged) : readEntryFromStmt sigs i.row =
      { i.entry with
        chainSig := (readEntryFromStmt sigs i.row).chainSig
        chainSigKeyId := (readEntryFromStmt sigs i.row).chainSigKeyId } := by
  have h := readEntryFromStmt_insertRow sigs i.signed i.rowid i.entry
  have heta : ∀ e : Entry, e =
      { e.withoutSig with chainSig := e.chainSig, chainSigKeyId := e.chainSigKeyId } := fun _ => rfl
  conv_lhs => rw [heta (readEntryFromStmt sigs i.row)]
  rw [row, h]
  rfl

section
variable {sigs : Bool} {i : Logged}

@[simp] theorem read_sequence : (readEntryFromStmt sigs i.row).sequence = i.entry.sequence := rfl

@[simp] theorem read_previousEntryHash :
    (readEntryFromStmt sigs i.row).previousEntryHash = i.entry.previousEntryHash := by
  rw [readEntryFromStmt_row]

@[simp] theorem read_chainEntryHash :
    (readEntryFromStmt sigs i.row).chainEntryHash = i.entry.chainEntryHash := by
  rw [readEntryFromStmt_row]

@[simp] theorem read_chainHmac : (readEntryFromStmt sigs i.row).chainHmac = i.entry.chainHmac := by
  rw [readEntryFromStmt_row]

@[simp] theorem read_core : (readEntryFromStmt sigs i.row).core = i.entry.core := by
  rw [readEntryFromStmt_row]
  rfl

@[simp] theorem read_canonical :
    buildCanonicalJson (readEntryFromStmt sigs i.row) = buildCanonicalJson i.entry := by
  rw [← buildCanonicalJson_core, read_core, buildCanonicalJson_core]

end

section
variable (H : Honest C K db log)
include H

/-- A session's rows are all within the range its head commits to. -/
theorem Honest.getRange_eq (hu : Unaliased log s) :
    db.getRange s 0 ((ofSession log s).length - 1) = (ofSession log s).map Logged.row := by
  have hl := H.linked_ofSession hu
  rw [Db.getRange, H.sessionRows_eq, H.group_eq_ofSession hu, filter_eq_self.mpr]
  intro r hr
  obtain ⟨i, hi, rfl⟩ := mem_map.mp hr
  have hbound := HashChain.Linked.seq_mem hl (mem_map_of_mem hi)
  rw [length_map] at hbound
  rw [row_sequence]
  exact Bool.and_eq_true_iff.mpr ⟨decide_eq_true hbound.1, decide_eq_true (by omega)⟩

/-- The verifier reads exactly a session's appends. -/
theorem Honest.entriesRead_eq (hu : Unaliased log s) (v : Handle) :
    entriesRead v db s 0 ((ofSession log s).length - 1) =
      (ofSession log s).map (fun i => readEntryFromStmt (v.readOnly && v.entrySigCols) i.row) := by
  rw [entriesRead, H.getRange_eq hu, map_map]
  rfl

/-- An entry the daemon wrote is authentic as far as its evidence agrees. -/
theorem Honest.authentic_iff (hb : BodiesBound C db) (hv : KeyVerifier K v) {env : ReadEnv}
    (hf : env.Fine) (sigs : Bool) {i : Logged} (hi : i ∈ log) :
    Authentic C parse v env db (readEntryFromStmt sigs i.row) ↔ EvidenceAgrees parse db i.entry := by
  have hs := H.sealed i hi
  have hev : EvidenceAgrees parse db (readEntryFromStmt sigs i.row) ↔
      EvidenceAgrees parse db i.entry := by
    rw [readEntryFromStmt_row]
    exact ⟨fun h => ⟨fun ht => ⟨(h.intent ht).approval, (h.intent ht).closers, (h.intent ht).binding⟩,
      h.closer⟩,
      fun h => ⟨fun ht => ⟨(h.intent ht).approval, (h.intent ht).closers, (h.intent ht).binding⟩,
      h.closer⟩⟩
  rw [← hev, ← evidenceOk_iff hf]
  constructor
  · exact fun h => h.evidence
  intro h
  refine ⟨by simpa using hs.short, ?_, fun _ => ⟨hf _ _, ?_⟩, bindingOk_of_bodiesBound hf hb _, h⟩
  · rw [read_canonical, read_chainEntryHash, hs.hash_eq, Field.bytes_copy]
    exact (snprintfS_eq_self (fun hm => (C.plain_sha256Hex _ _ hm).2 rfl) (by simp)).symm
  · rw [read_canonical, read_chainHmac, hv.key_eq, hs.hmac_eq, Field.bytes_copy]
    exact (snprintfS_eq_self (fun hm => (C.plain_hmacSha256Hex _ _ _ hm).2 rfl) (by simp)).symm

/-- The head of a session whose appends returned OK names the last of them. -/
theorem Honest.head_ofSession (hu : Unaliased log s) (hack : ∀ i ∈ log, i.acked = true)
    (hne : ofSession log s ≠ []) :
    ∃ row j, db.headGet s = some row ∧ (ofSession log s).getLast? = some j ∧ HeadOf C K s row j ∧
      j.entry.sequence = (ofSession log s).length - 1 := by
  obtain ⟨j, hj⟩ := Option.ne_none_iff_exists'.mp (mt getLast?_eq_none_iff.mp hne)
  have hrel := H.heads s
  rw [hj] at hrel
  cases hrow : db.headGet s with
  | none =>
    rw [hrow] at hrel
    cases hrel with
    | missing hj' =>
      have hmem : j ∈ log := mem_of_mem_filter (mem_of_getLast? hj)
      exact absurd (hack j hmem) (by simp [hj'])
  | some row =>
    rw [hrow] at hrel
    cases hrel with
    | some hof =>
      refine ⟨row, j, rfl, hj, hof, ?_⟩
      obtain ⟨l, hl⟩ := getLast?_eq_some_iff.mp hj
      rw [hl, length_append, length_singleton, H.sequence_last hu hl]
      omega

end

theorem length_ofSession_le (log : List Logged) (s : Bytes) :
    (ofSession log s).length ≤ log.length := length_filter_le _ _

/-- **What the daemon wrote verifies**, as far as its evidence records agree. -/
theorem Honest.valid_iff_agrees (H : Honest C K db log) (hb : BodiesBound C db)
    (hu : Unaliased log s) (hack : ∀ i ∈ log, i.acked = true) (hne : ofSession log s ≠ [])
    (hlen : log.length < 2 ^ 63) (hv : KeyVerifier K v) {env : ReadEnv} (hf : env.Fine) :
    (chainVerifySessionLocked C parse v env db s).valid = true ↔
      ∀ i ∈ ofSession log s, EvidenceAgrees parse db i.entry := by
  obtain ⟨row, j, hrow, hj, hof, hseq⟩ := H.head_ofSession hu hack hne
  have hlast : row.lastSequence = (ofSession log s).length - 1 := hof.seq_eq.trans hseq
  have hread := H.entriesRead_eq hu v
  have hfits : s.length ≤ 236 := by have := hu.1; omega
  have hauth : (∀ e ∈ entriesRead v db s 0 row.lastSequence, Authentic C parse v env db e) ↔
      ∀ i ∈ ofSession log s, EvidenceAgrees parse db i.entry := by
    rw [hlast, hread, forall_mem_map]
    exact forall₂_congr (fun i hi => H.authentic_iff hb hv hf _ (mem_ofSession hi).1)
  rw [valid_iff, ← hauth]
  constructor
  · rintro ⟨row', h⟩
    obtain rfl : row' = row := Option.mem_unique h.head hrow
    exact h.authentic
  intro h
  refine ⟨row, (hv.sessionValid_iff hf).mpr ⟨hrow, ?_, ?_, ?_, h, ?_, ?_⟩⟩
  · -- the MAC was taken with another stack behind the buffer, but the text fits it
    obtain ⟨stack, hmac⟩ := hof.mac_eq
    have hnat : j.entry.sequence.natAbs < 10 ^ 20 := by
      have := length_ofSession_le log s
      rw [hseq]
      omega
    have hle : j.entry.chainEntryHash.bytes.length ≤ 64 := by
      have := j.entry.chainEntryHash.length_lt
      omega
    rw [hmac, hof.hash_eq, hof.seq_eq,
      snprintfS_eq_self j.entry.chainEntryHash.zero_notMem j.entry.chainEntryHash.length_lt,
      headBytes_of_fits hfits hle hnat, headBytes_of_fits hfits hle hnat]
    exact (snprintfS_eq_self (fun hm => (C.plain_hmacSha256Hex _ _ _ hm).2 rfl) (by simp)).symm
  · have := length_pos_iff.mpr hne
    omega
  · rw [hlast, hread, computeGenesisHash_of_fits hfits]
    have hlink := H.linked_ofSession hu
    rw [LinkedEntries, HashChain.linked_map] at hlink ⊢
    simpa using hlink
  · rw [hlast, hread, length_map]
    omega
  · rw [hlast, hread, HashChain.tip_map, hof.hash_eq,
      snprintfS_eq_self j.entry.chainEntryHash.zero_notMem j.entry.chainEntryHash.length_lt]
    simp [HashChain.tip, hj]

/-- The canonical texts of the logged entries. -/
def canonicalTexts (log : List Logged) : Set Bytes := {t | ∃ i ∈ log, buildCanonicalJson i.entry = t}

/-- The next sequence number of a session is the number of its appends. -/
theorem Honest.nextLink_fst (H : Honest C K db log) (hu : Unaliased log s) {env : Env}
    (hf : env.Fine) : (nextLink C env db s).1 = (ofSession log s).length := by
  unfold nextLink
  rw [hf.1, hf.1, Bool.or_self, if_neg Bool.false_ne_true, H.getLast_eq, H.group_eq_ofSession hu]
  rcases eq_nil_or_concat (ofSession log s) with hnil | ⟨l, j, hl⟩
  · rw [hnil]
    rfl
  · rw [concat_eq_append] at hl
    rw [hl, getLast?_concat, length_append, length_singleton]
    simp only [Option.map_some, row_sequence, H.sequence_last hu hl]
    omega

/-- Two sealed entries with the same hash have the same text, unless SHA-256
collides on them. -/
theorem canonical_eq_of_hash_eq {x y : Bytes} {texts : Set Bytes} (hinj : Set.InjOn C.sha256 texts)
    (hx : x ∈ texts) (hy : y ∈ texts)
    (h : (Field.copy 65 (C.sha256Hex x)).bytes = (Field.copy 65 (C.sha256Hex y)).bytes) : x = y := by
  have hfit : ∀ t, snprintfS 65 (C.sha256Hex t) = C.sha256Hex t := fun t =>
    snprintfS_eq_self (fun hm => (C.plain_sha256Hex _ _ hm).2 rfl) (by simp)
  rw [Field.bytes_copy, Field.bytes_copy, hfit, hfit] at h
  have hbytes := hexEncode_injective h
  refine hinj hx hy ?_
  cases hdx : C.sha256 x
  cases hdy : C.sha256 y
  simp_all

/-- No entry of the session's column carries the next sequence number yet. -/
theorem Honest.next_is_new (H : Honest C K db log) (hu : Unaliased log s) {i : Logged}
    (hi : i ∈ log) (hc : i.column = s) : i.entry.sequence ≠ (ofSession log s).length := by
  have hmem : i ∈ ofSession log s := by
    rw [← H.group_eq_ofSession hu]
    simp [group, hi, hc]
  have hbound := HashChain.Linked.seq_mem (H.linked_ofSession hu) (mem_map_of_mem hmem)
  rw [length_map] at hbound
  omega

/-- The row of an entry with the next sequence number violates no uniqueness
constraint, unless its hash collides. -/
theorem Honest.next_is_fresh (H : Honest C K db log) (hu : Unaliased log s)
    (hs : e.sessionId.bytes = s) (hseq : e.sequence = (ofSession log s).length)
    (hhash : e.chainEntryHash = .copy 65 (C.sha256Hex (buildCanonicalJson e)))
    (hinj : Set.InjOn C.sha256 (insert (buildCanonicalJson e) (canonicalTexts log))) {r : EntryRow}
    (hr : r ∈ db.entries.rows) (signed : Bool) (n : Nat) :
    r.clash (insertRow signed n e) = false := by
  rw [H.rows_eq] at hr
  obtain ⟨i, hi, rfl⟩ := mem_map.mp hr
  have hsealed := H.sealed i hi
  have hkey : ¬(i.column = s ∧ i.entry.sequence = (ofSession log s).length) :=
    fun h => H.next_is_new hu hi h.1 h.2
  have hdigest : i.entry.chainEntryHash.bytes ≠ e.chainEntryHash.bytes := by
    intro heq
    rw [hsealed.hash_eq, hhash] at heq
    have htext := canonical_eq_of_hash_eq hinj (Set.mem_insert_of_mem _ ⟨i, hi, rfl⟩)
      (Set.mem_insert _ _) heq
    have hcore := core_eq_of_canonical_eq hsealed.clean htext.symm
    have h1 := Entry.congr_core Entry.sessionId (fun _ => rfl) hcore
    have h2 := Entry.congr_core Entry.sequence (fun _ => rfl) hcore
    exact hkey ⟨by rw [column, ← h1, hs], by rw [← h2, hseq]⟩
  simp only [EntryRow.clash, row, insertRow, Bool.or_eq_false_iff, Bool.and_eq_false_imp,
    beq_iff_eq, beq_eq_false_iff_ne, hs, hseq]
  exact ⟨fun h1 h2 => hkey ⟨h1, h2⟩, hdigest⟩

/-- **The next append succeeds**: unless a step fails by itself, a gate refuses it,
or its hash collides. -/
theorem Honest.append_succeeds {st : Store} (H : Honest C K st.committed log) (hu : Unaliased log s)
    (hlen : log.length < 2 ^ 63) (htxn : st.txn = none) (hro : h.readOnly = false) {env : Env}
    (hf : env.Fine) {useEpoch : Bool} (hdest : epochSession h call.sessionId = .ok (s, useEpoch))
    (hstr : appendStringsOk s call = true)
    (hepoch : useEpoch = true → destinationTaken C h st.committed s = false)
    (hgate : typeIsFederation call.artifactType = true →
      idConflict st.committed call.artifactId call.artifactHash = false)
    (hinj : Set.InjOn C.sha256 (insert
      (buildCanonicalJson (populateEntry h env call s (nextLink C env st.committed s)))
      (canonicalTexts log))) : ∃ e, (chainAppendLocked C h env st call).2 = .ok e ∧
      e.sequence = (ofSession log s).length := by
  have hfits : s.length ≤ 236 := by have := hu.1; omega
  have hseq := H.nextLink_fst hu hf
  have hnat : ((nextLink C env st.committed s).1).natAbs < 10 ^ 20 := by
    have := length_ofSession_le log s
    rw [hseq]
    omega
  have hs0 : 0 ∉ s := fun hm => by
    simp only [appendStringsOk, Bool.and_eq_true] at hstr
    exact (plain_of_canonicalStringOk hstr.1.1.1 0 hm).2 rfl
  have hcol : snprintfS 64 s = s := snprintfS_eq_self hs0 (by have := hu.1; omega)
  have htxnOk : ∃ p, appendTxn C h env call s useEpoch st.committed = .ok p := by
    refine appendTxn_succeeds hf hepoch hgate (length_buildCanonicalJson_lt hnat) ?_ ?_
    · intro hash
      have hle : hash.bytes.length ≤ 64 := by have := hash.length_lt; omega
      rw [headBytes_of_fits hfits hle hnat]
      have hlt := length_headCanonical_lt hfits hle hnat
      refine ⟨?_, by omega⟩
      rw [headCanonical, length_append]
      exact Nat.add_pos_left (by decide) _
    · intro e hcore hhash r hr
      have htext : buildCanonicalJson e =
          buildCanonicalJson (populateEntry h env call s (nextLink C env st.committed s)) := by
        rw [← buildCanonicalJson_core, hcore, buildCanonicalJson_core]
      rw [← htext] at hinj
      have hes : e.sessionId.bytes = s := (congrArg (fun e => e.sessionId.bytes) hcore).trans hcol
      have hen : e.sequence = (ofSession log s).length := (congrArg Entry.sequence hcore).trans hseq
      exact H.next_is_fresh hu hes hen hhash hinj hr _ _
  obtain ⟨⟨db', e⟩, htx⟩ := htxnOk
  refine ⟨e, ?_, ?_⟩
  · unfold chainAppendLocked chainAppend
    simp only [hro, Bool.false_eq_true, if_false, hdest, hstr, Bool.true_eq_false, hf.1, htxn,
      Option.isSome_none, Bool.or_self, htx, hf.2]
  · rw [← hseq]
    exact congrArg Entry.sequence (appendTxn_ok htx).core_eq

/-! ## Runs -/

/-- The next append to a session is well formed and meets no gate: the handle can
write, the strings are canonical, a native epoch finds its session unused by other
keys, and a federation id is not committed to other bytes. -/
structure Admissible (C : Crypto) (db : Db) (s : Bytes) (h : Handle) (call : AppendCall)
    (useEpoch : Bool) : Prop where
  writable : h.readOnly = false
  dest : epochSession h call.sessionId = .ok (s, useEpoch)
  strings : appendStringsOk s call = true
  epoch : useEpoch = true → destinationTaken C h db s = false
  gate : typeIsFederation call.artifactType = true →
    idConflict db call.artifactId call.artifactHash = false

namespace Sample

/-- A daemon's handle under the key of 32 bytes `0x0b`. -/
def handle : Handle where
  nodeId := 1
  orgId := .copy 64 (text "local")
  orgId_plain := plain_local
  chainKey := List.replicate 32 0x0b
  haveChainKey := true
  readOnly := false
  signSeed := none
  nativeEpoch := .empty 17
  verifyPub := none
  legacyNoHeads := false
  entrySigCols := false
  headSigCols := false

def env : Env := ⟨fun _ => false, .ok, 1000, 7, []⟩

def readEnv : ReadEnv := ⟨fun _ _ => false, []⟩

/-- An observation with its body. -/
def observation : AppendCall where
  sessionId := text "s1"
  artifactType := text "observation"
  artifactId := text "o1"
  artifactHash := text "88a5b5b1e93e19c27bb3342d44284184bfbdce2038663c8383bfbed5c2f2e4f8"
  artifactContent := some (text "interface up")

def zeroHash : Bytes := List.replicate 64 0x30

/-- A body that cites an intent no entry holds. -/
def citation : Bytes := text "\x7b\"intent_entry_hash\":\"" ++ zeroHash ++ text "\"\x7d"

/-- A closer with that body. -/
def strayCloser : AppendCall where
  sessionId := text "s1"
  artifactType := text "gate_execution"
  artifactId := text "x1"
  artifactHash := text "72eb3471be324177f60846ab777e054a8126d30eb9ebc0821eae5de7152781d1"
  artifactContent := some citation

def genesis : Bytes := text "b69b9b416ba67d25af95f0bfed4e27de6c896f8b6511bd749be7cd215ee11495"

/-- The canonical text of the first entry of `s1`. -/
def firstText (call : AppendCall) : Bytes :=
  buildCanonicalJson (populateEntry handle env call (text "s1") (0, genesis))

def observationHash : Bytes :=
  text "0c3ecfbdaa2e1d76556183c9a9abb36049d6d0caee841f9885e49f8ed564c7ad"

def strayCloserHash : Bytes :=
  text "0e11181f8187533c3f234a35cf79572d920bcc3b74e38f0f9de856a9535fa7c7"

/-- SHA-256 and HMAC on the texts of the two one-entry sessions. -/
def crypto : Crypto := .known
  [(genesisText (text "s1"), genesis),
   (text "interface up", observation.artifactHash),
   (citation, strayCloser.artifactHash),
   (firstText observation, observationHash),
   (firstText strayCloser, strayCloserHash)]
  [((handle.chainKey, firstText observation),
    text "26e7bc543a2a41002b956e6e1928cc168e57c264ce1990c034e011128d74df99"),
   ((handle.chainKey, headCanonical (text "s1") 0 observationHash),
    text "5215a2ec33f8d514454a123b9c92fbf239ab0ab5081e69b57328d01da144435e"),
   ((handle.chainKey, firstText strayCloser),
    text "4889b02a498eea93489afe3de46be8dafed255c3cb121d09663041a35f726441"),
   ((handle.chainKey, headCanonical (text "s1") 0 strayCloserHash),
    text "a13adb6da73724707e43afae2d41b183464e784b3ae61d8df8425a235223d9e2")]
  [] []

/-- The parser on that body. -/
def parseCitation (t : Bytes) : Option Json :=
  if t = citation then some (.object [(text "intent_entry_hash", .string zeroHash)]) else none

def ops : List ChainOp :=
  [.append handle env observation,
   .append handle env { observation with artifactId := text "a\"b" }]

theorem keyVerifier_handle : KeyVerifier handle.chainKey handle := ⟨rfl, rfl, rfl, rfl⟩

end Sample

open Sample

end Virp
