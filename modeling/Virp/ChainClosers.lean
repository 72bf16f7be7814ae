import Virp.ChainColumns

/-! # Closed executions

The verifier counts a `gate_intent` as closed when a closer anywhere in the database
cites it.  Closers of other sessions are read but not authenticated by the
verification of the intent's session; they are as trustworthy as the sessions they
stand in.  Where every closer that cites the intent stands in a session that verifies,
and its stored body hashes to its commitment, the intent has been closed by the daemon
(`closed_intent_has_logged_closer`).
-/
namespace Virp

open List

variable {C : Crypto} {parse : Bytes → Option Json} {K : Bytes} {db db' : Db} {log : List Logged}
variable {v : Handle} {env : ReadEnv}

/-- The row is a closer whose stored body cites an entry hash. -/
def Cites (parse : Bytes → Option Json) (db : Db) (r : EntryRow) (hash : Bytes) : Prop :=
  typeIsCloser r.artifactType = true ∧ ∃ o, parsedBody parse db r = some o ∧
    o.strNonempty (text "intent_entry_hash") 65 = some hash

/-- The daemon appended a closer that commits to a body citing the entry hash. -/
def LoggedCloser (C : Crypto) (parse : Bytes → Option Json) (i : Logged) (hash : Bytes) : Prop :=
  typeIsCloser i.entry.artifactType.bytes = true ∧
    ∃ body o, artifactDigest C body = some i.entry.artifactHash.bytes ∧ parse body = some o ∧
      o.strNonempty (text "intent_entry_hash") 65 = some hash

/-- The row stands in a session that verifies, within the range its head commits to;
its columns fit their fields, and its stored body hashes to its commitment. -/
structure VerifiedCloser (C : Crypto) (parse : Bytes → Option Json) (v : Handle) (env : ReadEnv)
    (db : Db) (r : EntryRow) : Prop where
  valid : (chainVerifySessionLocked C parse v env db r.sessionId).valid = true
  inRange : ∀ row, db.headGet r.sessionId = some row →
    0 ≤ r.sequence ∧ r.sequence ≤ row.lastSequence
  fits : r.Fits
  bound : ∀ body, db.bodyOf r = some body → artifactDigest C (cstr body) = some r.artifactHash

theorem exists_cites_of_closersCiting {hash : Bytes} (h : closersCiting parse db hash ≠ []) :
    ∃ r ∈ db.entries.rows, Cites parse db r hash := by
  obtain ⟨ref, hmem⟩ := exists_mem_of_ne_nil _ h
  obtain ⟨href, hcited⟩ := mem_filter.mp hmem
  obtain ⟨r, hr, hcloser⟩ := mem_filterMap.mp href
  refine ⟨r, hr, ?_⟩
  unfold closerRef at hcloser
  split at hcloser
  · rename_i htype
    obtain ⟨cited, hbind, rfl⟩ := Option.map_eq_some_iff.mp hcloser
    obtain ⟨o, hbody, ho⟩ := Option.bind_eq_some_iff.mp hbind
    have heq : cited = hash := by simpa using hcited
    exact ⟨htype, o, hbody, heq ▸ ho⟩
  · cases hcloser

/-- Counting as closed takes a closer that cites the intent. -/
theorem closersCiting_of_countedClosed {e : Entry} (h : countedClosed parse env db e = true) :
    closersCiting parse db e.chainEntryHash.bytes ≠ [] := by
  unfold countedClosed at h
  rw [Bool.and_eq_true, beq_iff_eq, beq_iff_eq] at h
  obtain ⟨-, hgrade⟩ := h
  intro hnil
  unfold gradeIntent at hgrade
  simp only [closersOf_fst, hnil, length_nil] at hgrade
  split_ifs at hgrade

/-- **A closer of a session that verifies is the daemon's.** -/
theorem Honest.closer_is_logged (H : Honest C K db log) (hshort : ∀ i ∈ log, i.session.length ≤ 236)
    (hlen : log.length < 2 ^ 63) (hsha : Set.InjOn C.sha256 (genesisTexts log))
    (hm : OnlyMacs (macValues db) db') (hk : v.haveChainKey = true) (hK : v.chainKey = K)
    {r : EntryRow} (hr : r ∈ db'.entries.rows) {hash : Bytes} (hcites : Cites parse db' r hash)
    (hforge : NoForgery C K (checkedTexts env.stack db' r.sessionId) (macTexts db))
    (hv : VerifiedCloser C parse v env db' r) :
    ∃ i ∈ ofSession log r.sessionId, LoggedCloser C parse i hash := by
  obtain ⟨row, hvalid⟩ := valid_iff.mp hv.valid
  have hrow := mem_sessionRows.mpr ⟨hr, rfl⟩
  have hrange := hv.inRange row hvalid.head
  have hread : (readEntryFromStmt (v.readOnly && v.entrySigCols) r).core ∈
      (entriesRead v db' r.sessionId 0 row.lastSequence).map Entry.core :=
    mem_map_of_mem (mem_map_of_mem (mem_getRange.mpr ⟨hrow, hrange⟩))
  rw [H.verified_is_log hshort hlen hsha hm hk hK hforge hvalid] at hread
  obtain ⟨i, hi, hcore⟩ := mem_map.mp hread
  have hcols := (columnsAre_read_iff (v.readOnly && v.entrySigCols) r).mpr hv.fits
  have htype : r.artifactType = i.entry.artifactType.bytes := hcols.artifactType.trans
    (Entry.congr_core (fun e => e.artifactType.bytes) (fun _ => rfl) hcore).symm
  have hhash : r.artifactHash = i.entry.artifactHash.bytes := hcols.artifactHash.trans
    (Entry.congr_core (fun e => e.artifactHash.bytes) (fun _ => rfl) hcore).symm
  obtain ⟨hcloser, o, hbody, ho⟩ := hcites
  obtain ⟨content, hcontent, hparse⟩ := Option.bind_eq_some_iff.mp hbody
  exact ⟨i, hi, htype ▸ hcloser, cstr content, o, hhash ▸ hv.bound content hcontent, hparse, ho⟩

/-- The closed executions a valid session reports are the entries counted as closed. -/
theorem SessionValid.executionsClosed_eq {s : Bytes} {row : HeadRow}
    (h : SessionValid C parse v env db s row) :
    (chainVerifySessionLocked C parse v env db s).executionsClosed =
      (entriesRead v db s 0 row.lastSequence).countP (countedClosed parse env db) := by
  have hvalid := h.walked_valid
  have hera : ∀ (b u : Bool) (r : VerifyResult),
      (gradeEra v b u r).executionsClosed = r.executionsClosed := by
    intro b u r
    unfold gradeEra
    split_ifs <;> rfl
  have hcut : (walkedResult C parse v env db s row.lastSequence).executionsClosed =
      (walked C parse v env db s row.lastSequence).executionsClosed := by
    unfold walkedResult gradeCutover
    split_ifs <;> rfl
  rw [h.result_eq, closeSession]
  simp only [walkedResult_rc, hvalid, h.last, ne_eq, not_true_eq_false, Bool.true_eq_false,
    or_self, if_false, hera, hcut]
  rw [walked, foldl_executionsClosed]
  simp [Walk.start]

/-- **Closed executions.**  Each intent a valid session counts as closed is cited by a
closer of the database; and if the closers that cite it stand verified in their own
sessions, the daemon itself appended a closer that commits to a body citing it. -/
theorem closed_intent_has_logged_closer {ops : List ChainOp} (hkey : ∀ op ∈ ops, op.UsesKey K)
    (hshort : ∀ i ∈ (run C ops).log, i.session.length ≤ 236)
    (hlen : (run C ops).log.length < 2 ^ 63)
    (hsha : Set.InjOn C.sha256 (genesisTexts (run C ops).log))
    (hm : OnlyMacs (macValues (run C ops).store.committed) db') (v : Handle)
    (hk : v.haveChainKey = true) (hK : v.chainKey = K) (env : ReadEnv) (s : Bytes)
    (hforge : ∀ t, NoForgery C K (checkedTexts env.stack db' t)
      (macTexts (run C ops).store.committed))
    (hvalid : (chainVerifySessionLocked C parse v env db' s).valid = true) :
    ∃ row, db'.headGet s = some row ∧
      (chainVerifySessionLocked C parse v env db' s).executionsClosed =
        (entriesRead v db' s 0 row.lastSequence).countP (countedClosed parse env db') ∧
      ∀ e ∈ entriesRead v db' s 0 row.lastSequence, countedClosed parse env db' e = true →
        (∃ r ∈ db'.entries.rows, Cites parse db' r e.chainEntryHash.bytes) ∧
        ((∀ r ∈ db'.entries.rows, Cites parse db' r e.chainEntryHash.bytes →
            VerifiedCloser C parse v env db' r) →
          ∃ i ∈ (run C ops).log, LoggedCloser C parse i e.chainEntryHash.bytes) := by
  obtain ⟨row, hv⟩ := valid_iff.mp hvalid
  refine ⟨row, hv.head, hv.executionsClosed_eq, ?_⟩
  intro e _ hclosed
  have hciting := exists_cites_of_closersCiting (closersCiting_of_countedClosed hclosed)
  refine ⟨hciting, fun hverified => ?_⟩
  obtain ⟨r, hr, hcites⟩ := hciting
  obtain ⟨i, hi, hlogged⟩ := (honest_run hkey).closer_is_logged hshort hlen hsha hm hk hK hr hcites
    (hforge r.sessionId) (hverified r hr hcites)
  exact ⟨i, (mem_ofSession hi).1, hlogged⟩

namespace Sample

/-- A gated intent on a device. -/
def intent : AppendCall where
  sessionId := text "s1"
  artifactType := text "gate_intent"
  artifactId := text "i1"
  artifactHash := text "611585b8758adfe2f7dbbe5e050d14b92a7f593b0affb529a95fbb46ce2af8d8"
  artifactContent := some (text "\x7b\"device\":\"r1\"\x7d")

def intentHash : Bytes :=
  text "f4a0f58a68f8df9142cbe0d5caece0cd13e3244cfa12371f384f72ac0fe1b2fc"

def closerContent : Bytes :=
  text "\x7b\"device\":\"r1\",\"intent_entry_hash\":\"" ++ intentHash ++ text "\"\x7d"

/-- The closer of that intent. -/
def closer : AppendCall where
  sessionId := text "s1"
  artifactType := text "gate_execution"
  artifactId := text "x1"
  artifactHash := text "d0d4c271b5ebc48966e76f49f54a82f560b32e4664695c3eabe6582532f1e3ca"
  artifactContent := some closerContent

def closerHash : Bytes :=
  text "412ab80b42df631587b44bf02e297e06938d6bb2afa1db4935ba188316241ed3"

/-- The canonical text of the closer as the second entry of `s1`. -/
def closerText : Bytes :=
  buildCanonicalJson (populateEntry handle Sample.env closer (text "s1") (1, intentHash))

def intentMac : Bytes :=
  text "db3575f5953534b534d4e8c9221be9a7227780ff4eab302bba8f7fadb5f4bfcc"

/-- HMAC on the texts of the gated execution. -/
def gateMacs : List ((Bytes × Bytes) × Bytes) :=
  [((handle.chainKey, firstText intent), intentMac),
   ((handle.chainKey, headCanonical (text "s1") 0 intentHash),
    text "57f3ff8819239efcf865086b577ac9a89b764052acda452c328babf4148539a6"),
   ((handle.chainKey, closerText),
    text "26e700afde5069aed36036849d18ff23499f5fdea95741a63c16f7e4b17c4c07"),
   ((handle.chainKey, headCanonical (text "s1") 1 closerHash),
    text "da1d666bc47606f009138301dc2f923e8ecd55d340f1cb3efdac2912c6fa43d5")]

def gateCrypto : Crypto := .known
  [(genesisText (text "s1"), genesis),
   (text "\x7b\"device\":\"r1\"\x7d", intent.artifactHash),
   (closerContent, closer.artifactHash),
   (firstText intent, intentHash),
   (closerText, closerHash)]
  gateMacs [] []

/-- The parser on the two bodies. -/
def parseGate (t : Bytes) : Option Json :=
  if t = closerContent then
    some (.object [(text "device", .string (text "r1")),
      (text "intent_entry_hash", .string intentHash)])
  else if t = text "\x7b\"device\":\"r1\"\x7d" then
    some (.object [(text "device", .string (text "r1"))])
  else none

def gateOps : List ChainOp := [.append handle Sample.env intent, .append handle Sample.env closer]

def intentOps : List ChainOp := [.append handle Sample.env intent]

/-- A closer that an editor of the database adds in a session of its own, with the
MAC of the intent. -/
def forgedRow : EntryRow where
  rowid := 2
  sessionId := text "s2"
  sequence := 0
  chainEntryHash := zeroHash
  previousEntryHash := genesis
  timestampNs := 1000
  monotonicNs := 7
  artifactType := text "gate_execution"
  artifactId := text "x1"
  artifactHash := closer.artifactHash
  artifactHashAlg := text "sha256"
  artifactSchemaVersion := text "1"
  signerNodeId := 1
  signerOrgId := text "local"
  chainHmac := intentMac
  chainSig := none
  chainSigKeyId := none

/-- The database with the forged closer and its body. -/
def forged : Db :=
  { (run gateCrypto intentOps).store.committed with
    entries := (run gateCrypto intentOps).store.committed.entries.insertOrIgnore forgedRow
    artifacts := (run gateCrypto intentOps).store.committed.artifacts.insertOrIgnore
      ⟨text "x1", text "gate_execution", closerContent, closer.artifactHash, text "s2", 1000⟩ }

/-- What the run of the gated execution leaves. -/
theorem gate_run : (∀ r ∈ (run gateCrypto gateOps).store.committed.entries.rows,
      r.sessionId = text "s1" ∧ (0 ≤ r.sequence ∧ r.sequence ≤ 1) ∧ r.Fits ∧
      snprintfS 65 r.chainHmac = r.chainHmac ∧
      (gateMacs.lookup (handle.chainKey, buildCanonicalJson (readEntryFromStmt false r))).isSome ∧
      ∀ body ∈ (run gateCrypto gateOps).store.committed.bodyOf r,
        artifactDigest gateCrypto (cstr body) = some r.artifactHash) ∧
    (∀ row ∈ (run gateCrypto gateOps).store.committed.heads.rows,
      row.lastSequence = 1 ∧ snprintfS 65 row.headHmac = row.headHmac ∧
      (row.sessionId.length ≤ 236 ∧ row.lastEntryHash.length ≤ 64 ∧
        row.lastSequence.natAbs < 10 ^ 20) ∧ (gateMacs.lookup (handle.chainKey,
        headCanonical row.sessionId row.lastSequence row.lastEntryHash)).isSome) ∧
    ((run gateCrypto gateOps).store.committed.milestones.rows = [] ∧
      (run gateCrypto gateOps).store.committed.intents.rows = []) ∧
    (run gateCrypto gateOps).log.length = 2 ∧
    ∀ i ∈ (run gateCrypto gateOps).log, i.session = text "s1" := by
  decide +kernel

theorem onlyMacs_gate : OnlyMacs (macValues (run gateCrypto gateOps).store.committed)
    (run gateCrypto gateOps).store.committed := by
  obtain ⟨hrows, hheads, -⟩ := gate_run
  refine ⟨fun r hr => Or.inl ⟨r, hr, ?_⟩, fun r hr => Or.inr (Or.inl ⟨r, hr, ?_⟩)⟩
  · exact (hrows r hr).2.2.2.1.symm
  · exact (hheads r hr).2.1.symm

theorem noForgery_gate (t : Bytes) : NoForgery gateCrypto handle.chainKey
    (checkedTexts readEnv.stack (run gateCrypto gateOps).store.committed t)
    (macTexts (run gateCrypto gateOps).store.committed) := by
  obtain ⟨hrows, hheads, hnone, -⟩ := gate_run
  exact noForgery_known (by decide +kernel) (fun r hr => (hrows r hr).2.2.2.2.1)
    (fun r hr => (hheads r hr).2.2) hnone _

theorem valid_gate : (chainVerifySessionLocked gateCrypto parseGate handle readEnv
      (run gateCrypto gateOps).store.committed (text "s1")).valid = true ∧
    (chainVerifySessionLocked gateCrypto parseGate handle readEnv
      (run gateCrypto gateOps).store.committed (text "s1")).executionsClosed = 1 := by
  decide +kernel

theorem verifiedCloser_gate : ∀ r ∈ (run gateCrypto gateOps).store.committed.entries.rows,
    VerifiedCloser gateCrypto parseGate handle readEnv (run gateCrypto gateOps).store.committed r := by
  obtain ⟨hrows, hheads, -⟩ := gate_run
  intro r hr
  obtain ⟨hs, ⟨h0, h1⟩, hfits, -, -, hbound⟩ := hrows r hr
  refine ⟨hs.symm ▸ valid_gate.1, fun row hrow => ⟨h0, ?_⟩, hfits, hbound⟩
  rw [(hheads row (Db.mem_of_headGet hrow)).1]
  exact h1

end Sample

open Sample

/-- The daemon's own closer closes the intent, and it is found in the log. -/
theorem closed_intent_has_logged_closer_gate :
    (chainVerifySessionLocked gateCrypto parseGate handle readEnv
      (run gateCrypto gateOps).store.committed (text "s1")).executionsClosed = 1 ∧
    ∃ row, (run gateCrypto gateOps).store.committed.headGet (text "s1") = some row ∧
      ∀ e ∈ entriesRead handle (run gateCrypto gateOps).store.committed
          (text "s1") 0 row.lastSequence,
        countedClosed parseGate readEnv
            (run gateCrypto gateOps).store.committed e = true →
          ∃ i ∈ (run gateCrypto gateOps).log,
            LoggedCloser gateCrypto parseGate i e.chainEntryHash.bytes := by
  obtain ⟨-, -, -, htwo, hsession⟩ := gate_run
  have hkey : ∀ op ∈ gateOps, op.UsesKey handle.chainKey := by
    simp [gateOps, ChainOp.UsesKey]
  have hshort : ∀ i ∈ (run gateCrypto gateOps).log, i.session.length ≤ 236 := by
    intro i hi
    rw [hsession i hi]
    decide
  have hsha : Set.InjOn gateCrypto.sha256
      (genesisTexts (run gateCrypto gateOps).log) := by
    rintro x ⟨i, hi, rfl⟩ y ⟨j, hj, rfl⟩ -
    rw [hsession i hi, hsession j hj]
  refine ⟨valid_gate.2, ?_⟩
  obtain ⟨row, hrow, -, hclosed⟩ := closed_intent_has_logged_closer (C := gateCrypto) hkey
    hshort (by rw [htwo]; decide) hsha onlyMacs_gate handle rfl rfl readEnv
    (text "s1") noForgery_gate valid_gate.1
  exact ⟨row, hrow, fun e he hcounted =>
    (hclosed e he hcounted).2 fun r hr _ => verifiedCloser_gate r hr⟩

/-- A row forged in another session closes an intent: the session of the intent
verifies and reports one closed execution, and the daemon appended no closer. -/
theorem forged_closer_counts :
    OnlyMacs (macValues (run gateCrypto intentOps).store.committed) forged ∧
    (chainVerifySessionLocked gateCrypto parseGate handle readEnv
      forged (text "s1")).valid = true ∧
    (chainVerifySessionLocked gateCrypto parseGate handle readEnv
      forged (text "s1")).executionsClosed = 1 ∧
    ∀ i ∈ (run gateCrypto intentOps).log,
      typeIsCloser i.entry.artifactType.bytes = false := by
  have hforged : (∀ r ∈ forged.entries.rows,
        ∃ q ∈ (run gateCrypto intentOps).store.committed.entries.rows,
          q.chainHmac = snprintfS 65 r.chainHmac) ∧ (∀ r ∈ forged.heads.rows,
        ∃ q ∈ (run gateCrypto intentOps).store.committed.heads.rows,
          q.headHmac = snprintfS 65 r.headHmac) ∧
      (chainVerifySessionLocked gateCrypto parseGate handle readEnv
        forged (text "s1")).valid = true ∧
      (chainVerifySessionLocked gateCrypto parseGate handle readEnv
        forged (text "s1")).executionsClosed = 1 ∧
      ∀ i ∈ (run gateCrypto intentOps).log,
        typeIsCloser i.entry.artifactType.bytes = false := by
    decide +kernel
  obtain ⟨hentries, hheads, hrest⟩ := hforged
  exact ⟨⟨fun r hr => Or.inl (hentries r hr), fun r hr => Or.inr (Or.inl (hheads r hr))⟩, hrest⟩

end Virp
