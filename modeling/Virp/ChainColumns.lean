import Virp.ChainTamper

/-! # What SQL sees, and what was authenticated

The verifier authenticates fields copied from the columns; the gates and lookups of
the program query the columns themselves.  The copy keeps a column as it is exactly
when it fits its field and holds no zero byte, and only the rows the head commits to
are read at all.  So the columns of a session that verifies are the authenticated
values exactly when all its rows lie in the verified range and fit
(`columns_authenticated_iff`).
-/
namespace Virp

open List

variable {C : Crypto} {parse : Bytes → Option Json} {K : Bytes} {db db' : Db}

/-- `virp_chain_entry_commits_to`: an observation entry commits to a hash, by the
column. -/
def entryCommitsTo (db : Db) (hash : Bytes) : Bool :=
  db.entries.rows.any (fun r => r.artifactHash == hash &&
    (r.artifactType == text "observation" || r.artifactType == text "fed_observation"))

/-- The text columns of a row are, byte for byte, the fields of an entry. -/
structure ColumnsAre (r : EntryRow) (e : Entry) : Prop where
  sessionId : r.sessionId = e.sessionId.bytes
  artifactType : r.artifactType = e.artifactType.bytes
  artifactId : r.artifactId = e.artifactId.bytes
  artifactHash : r.artifactHash = e.artifactHash.bytes
  chainEntryHash : r.chainEntryHash = e.chainEntryHash.bytes
  previousEntryHash : r.previousEntryHash = e.previousEntryHash.bytes

/-- The text columns of a row. -/
def EntryRow.textColumns (r : EntryRow) : List Bytes :=
  [r.sessionId, r.artifactType, r.artifactId, r.artifactHash, r.chainEntryHash,
    r.previousEntryHash]

variable {r r' : EntryRow} {s : Bytes} {v : Handle}

theorem ColumnsAre.textColumns_eq {e : Entry} (h : ColumnsAre r e) (h' : ColumnsAre r' e) :
    r'.textColumns = r.textColumns := by
  simp only [EntryRow.textColumns, h.sessionId, h.artifactType, h.artifactId, h.artifactHash,
    h.chainEntryHash, h.previousEntryHash, h'.sessionId, h'.artifactType, h'.artifactId,
    h'.artifactHash, h'.chainEntryHash, h'.previousEntryHash]

/-- The database in which an editor of its text columns left `r'` for the row `r`: numbered and
MACed as before, with a MAC that does not collide on the two texts. -/
structure EditOf (C : Crypto) (key : Bytes) (db db' : Db) (r r' : EntryRow) : Prop where
  heads : db'.heads = db.heads
  rows : db'.entries.rows = db.entries.rows.map (fun q => if q = r then r' else q)
  sequence : r'.sequence = r.sequence
  chainHmac : r'.chainHmac = r.chainHmac
  noCollision : C.hmac key (buildCanonicalJson (readEntryFromStmt false r')) =
      C.hmac key (buildCanonicalJson (readEntryFromStmt false r)) →
    buildCanonicalJson (readEntryFromStmt false r') = buildCanonicalJson (readEntryFromStmt false r)

/-- A column fits a field of `cap` bytes. -/
def FitsField (cap : Nat) (b : Bytes) : Prop := (0 : UInt8) ∉ b ∧ b.length < cap
deriving Decidable

/-- Every text column of the row fits its field. -/
@[mk_iff]
structure EntryRow.Fits (r : EntryRow) : Prop where
  sessionId : FitsField 64 r.sessionId
  artifactType : FitsField 16 r.artifactType
  artifactId : FitsField 128 r.artifactId
  artifactHash : FitsField 65 r.artifactHash
  chainEntryHash : FitsField 65 r.chainEntryHash
  previousEntryHash : FitsField 65 r.previousEntryHash

instance (r : EntryRow) : Decidable r.Fits := decidable_of_iff _ (EntryRow.fits_iff r).symm

/-- **The copy is lossless exactly on the rows that fit.** -/
theorem columnsAre_read_iff (sigs : Bool) (r : EntryRow) :
    ColumnsAre r (readEntryFromStmt sigs r) ↔ r.Fits := by
  have hcopy : ∀ {cap : Nat} {b : Bytes}, 0 < cap → (b = snprintfS cap b ↔ FitsField cap b) :=
    fun hcap => eq_comm.trans (snprintfS_eq_self_iff hcap _)
  constructor
  · intro h
    exact ⟨(hcopy (by decide)).mp h.sessionId, (hcopy (by decide)).mp h.artifactType,
      (hcopy (by decide)).mp h.artifactId, (hcopy (by decide)).mp h.artifactHash,
      (hcopy (by decide)).mp h.chainEntryHash, (hcopy (by decide)).mp h.previousEntryHash⟩
  · intro h
    exact ⟨(hcopy (by decide)).mpr h.sessionId, (hcopy (by decide)).mpr h.artifactType,
      (hcopy (by decide)).mpr h.artifactId, (hcopy (by decide)).mpr h.artifactHash,
      (hcopy (by decide)).mpr h.chainEntryHash, (hcopy (by decide)).mpr h.previousEntryHash⟩

theorem mem_sessionRows : r ∈ db.sessionRows s ↔ r ∈ db.entries.rows ∧ r.sessionId = s := by
  rw [Db.sessionRows, mem_insertionSort, mem_filter, beq_iff_eq]

theorem mem_getRange {lo hi : Int} :
    r ∈ db.getRange s lo hi ↔ r ∈ db.sessionRows s ∧ lo ≤ r.sequence ∧ r.sequence ≤ hi := by
  rw [Db.getRange, mem_filter, Bool.and_eq_true, decide_eq_true_iff, decide_eq_true_iff]

theorem EntryRow.clash_comm (a b : EntryRow) : a.clash b = b.clash a := by
  simp only [EntryRow.clash]
  rw [Bool.beq_comm (a := a.sessionId), Bool.beq_comm (a := a.sequence),
    Bool.beq_comm (a := a.chainEntryHash)]

/-- A session holds one row for each sequence number. -/
theorem eq_of_sequence_eq (hr : r ∈ db.sessionRows s) (hr' : r' ∈ db.sessionRows s)
    (h : r.sequence = r'.sequence) : r = r' := by
  obtain ⟨hm, hs⟩ := mem_sessionRows.mp hr
  obtain ⟨hm', hs'⟩ := mem_sessionRows.mp hr'
  exact Table.eq_of_clash EntryRow.clash_comm db.entries hm hm' (by simp [EntryRow.clash, hs, hs', h])

/-- A row carries the entry the verifier authenticated under its sequence number. -/
def RowAuthenticated (v : Handle) (db : Db) (s : Bytes) (last : Int) (r : EntryRow) : Prop :=
  ∃ e ∈ entriesRead v db s 0 last, e.sequence = r.sequence ∧ ColumnsAre r e

theorem rowAuthenticated_iff {last : Int} (hr : r ∈ db.sessionRows s) :
    RowAuthenticated v db s last r ↔ (0 ≤ r.sequence ∧ r.sequence ≤ last) ∧ r.Fits := by
  constructor
  · rintro ⟨e, he, hseq, hcols⟩
    obtain ⟨r', hr', rfl⟩ := mem_map.mp he
    obtain ⟨hmem, hrange⟩ := mem_getRange.mp hr'
    obtain rfl := eq_of_sequence_eq hr hmem hseq.symm
    exact ⟨hrange, (columnsAre_read_iff _ _).mp hcols⟩
  · rintro ⟨hrange, hfits⟩
    exact ⟨_, mem_map_of_mem (mem_getRange.mpr ⟨hr, hrange⟩), rfl,
      (columnsAre_read_iff _ _).mpr hfits⟩

/-- An edited row that verifies, and fits, carries the values authenticated before. -/
theorem EditOf.columnsAre {sigs : Bool} {env : ReadEnv} (hedit : EditOf C v.chainKey db db' r r')
    (hk : v.haveChainKey = true) (ha : Authentic C parse v env db (readEntryFromStmt sigs r))
    (ha' : Authentic C parse v env db' (readEntryFromStmt sigs r'))
    (hclean : (readEntryFromStmt false r).Clean) (hfits' : r'.Fits) :
    ColumnsAre r' (readEntryFromStmt sigs r) := by
  have hfield : (readEntryFromStmt sigs r').chainHmac.bytes =
      (readEntryFromStmt sigs r).chainHmac.bytes := by
    simp only [readEntryFromStmt, hedit.chainHmac]
  have htext : buildCanonicalJson (readEntryFromStmt sigs r') =
      buildCanonicalJson (readEntryFromStmt sigs r) := hedit.noCollision (hmac_eq_of_hex
    (((ha'.hmac_eq hk).2.trans hfield).trans (ha.hmac_eq hk).2.symm))
  have hcore : (readEntryFromStmt sigs r').core = (readEntryFromStmt sigs r).core :=
    core_eq_of_canonical_eq hclean htext
  have hcols := (columnsAre_read_iff sigs r').mpr hfits'
  have hhash : (readEntryFromStmt sigs r').chainEntryHash.bytes =
      (readEntryFromStmt sigs r).chainEntryHash.bytes := by
    rw [← ha'.hash_eq, ← ha.hash_eq, htext]
  exact
    { sessionId := hcols.sessionId.trans
        (Entry.congr_core (fun e => e.sessionId.bytes) (fun _ => rfl) hcore)
      artifactType := hcols.artifactType.trans
        (Entry.congr_core (fun e => e.artifactType.bytes) (fun _ => rfl) hcore)
      artifactId := hcols.artifactId.trans
        (Entry.congr_core (fun e => e.artifactId.bytes) (fun _ => rfl) hcore)
      artifactHash := hcols.artifactHash.trans
        (Entry.congr_core (fun e => e.artifactHash.bytes) (fun _ => rfl) hcore)
      chainEntryHash := hcols.chainEntryHash.trans hhash
      previousEntryHash := hcols.previousEntryHash.trans
        (Entry.congr_core (fun e => e.previousEntryHash.bytes) (fun _ => rfl) hcore) }

/-- A valid session has a row for each number of its range. -/
theorem SessionValid.exists_row {env : ReadEnv} {row : HeadRow}
    (h : SessionValid C parse v env db s row) {n : Int} (hn : 0 ≤ n ∧ n ≤ row.lastSequence) :
    ∃ q ∈ db.sessionRows s, q.sequence = n := by
  have hlen := h.complete
  have hk : n.toNat < (entriesRead v db s 0 row.lastSequence).length := by omega
  have hseq := HashChain.Linked.seq_getElem h.linked n.toNat hk
  obtain ⟨q, hq, he⟩ := mem_map.mp (getElem_mem hk)
  refine ⟨q, (mem_getRange.mp hq).1, ?_⟩
  rw [← he] at hseq
  change q.sequence = _ at hseq
  omega

/-- An edited row of a session that is still valid has not left it. -/
theorem EditOf.mem_sessionRows {env : ReadEnv} {row : HeadRow} (hedit : EditOf C v.chainKey db db' r r')
    (hr : r ∈ db.sessionRows s) (hrange : 0 ≤ r.sequence ∧ r.sequence ≤ row.lastSequence)
    (hv' : SessionValid C parse v env db' s row) : r' ∈ db'.sessionRows s := by
  obtain ⟨q, hq, hseq⟩ := hv'.exists_row hrange
  obtain ⟨hmem, hs⟩ := Virp.mem_sessionRows.mp hq
  rw [hedit.rows] at hmem
  obtain ⟨q₀, hq₀, heq⟩ := mem_map.mp hmem
  split_ifs at heq with hr₀
  · exact heq ▸ hq
  · subst heq
    exact absurd (eq_of_sequence_eq (Virp.mem_sessionRows.mpr ⟨hq₀, hs⟩) hr hseq) hr₀

namespace Sample

/-- The observation's database with two bytes added to its `artifact_hash` column. -/
def longHash : Db :=
  { (run crypto writes).store.committed with
    entries := ((run crypto writes).store.committed.entries.rows.map
      (fun r => { r with artifactHash := r.artifactHash ++ text "00" })).foldl
        Table.insertOrIgnore .empty }

/-- A row with another artifact id. -/
def renamed (r : EntryRow) : EntryRow := { r with artifactId := text "o9" }

/-- The observation's database with its row renamed. -/
def renamedDb : Db :=
  { (run crypto writes).store.committed with
    entries := ((run crypto writes).store.committed.entries.rows.map renamed).foldl
      Table.insertOrIgnore .empty }

theorem editOf_renamed : ∀ r ∈ (run crypto writes).store.committed.entries.rows,
    EditOf crypto handle.chainKey (run crypto writes).store.committed renamedDb r (renamed r) := by
  have hone : (run crypto writes).store.committed.entries.rows.length = 1 := by decide +kernel
  have hrows : renamedDb.entries.rows =
      (run crypto writes).store.committed.entries.rows.map renamed := by decide +kernel
  have hmac : ∀ r ∈ (run crypto writes).store.committed.entries.rows,
      crypto.hmac handle.chainKey (buildCanonicalJson (readEntryFromStmt false (renamed r))) ≠
        crypto.hmac handle.chainKey (buildCanonicalJson (readEntryFromStmt false r)) := by
    decide +kernel
  intro r hr
  obtain ⟨r₀, h₀⟩ := length_eq_one_iff.mp hone
  obtain rfl : r = r₀ := by simpa [h₀] using hr
  refine ⟨by rw [renamedDb], ?_, by rw [renamed], by rw [renamed], fun h => absurd h (hmac r hr)⟩
  rw [hrows, h₀, map_singleton, map_singleton, if_pos rfl]

theorem valid_written : (chainVerifySessionLocked crypto parseCitation handle readEnv
    (run crypto writes).store.committed (text "s1")).valid = true := by decide +kernel

end Sample

open Sample

end Virp
