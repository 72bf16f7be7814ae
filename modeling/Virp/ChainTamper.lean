import Virp.ChainCompleteness

/-! # What an editor of the database cannot do

Someone edits the database without the chain key: the MACs of the edited rows are
values it already held, each computed by the daemon over a text of its own.  If the MAC
does not collide on these texts and those the verifier reads, a MAC that checks out
names a record the daemon wrote: an entry's MAC an entry (`entry_is_logged`), a head's
MAC the last append of the session the head was asked for (`head_is_logged`).  Texts
of different kinds of record differ in their third byte or in their length.

From there the sequence numbers place each entry, and the head says where the list
ends (`tampered_session_is_log`).
-/
namespace Virp

open List

variable {C : Crypto} {parse : Bytes → Option Json} {K : Bytes} {db db' : Db} {log : List Logged}

/-! ## The MACs in a database -/

/-- Every MAC value a database holds under the chain key. -/
def macValues (db : Db) : Set Bytes :=
  {m | (∃ r ∈ db.entries.rows, r.chainHmac = m) ∨ (∃ r ∈ db.heads.rows, r.headHmac = m) ∨
    (∃ r ∈ db.milestones.rows, r.chainHmac = m) ∨ ∃ r ∈ db.intents.rows, r.signatureHmac = m}

/-- The canonical texts of a database's entry rows, as they are read. -/
def entryTexts (db : Db) : Set Bytes :=
  {t | ∃ r ∈ db.entries.rows, buildCanonicalJson (readEntryFromStmt false r) = t}

/-- The texts those MACs were computed over. -/
def macTexts (db : Db) : Set Bytes :=
  {t | t ∈ entryTexts db ∨
    (∃ r ∈ db.heads.rows, ∃ stack, headBytes stack r.sessionId r.lastSequence r.lastEntryHash = t) ∨
    (∃ r ∈ db.milestones.rows, ∃ stack, milestoneBytes stack r = t) ∨
    ∃ r ∈ db.intents.rows, r.intentHash = t}

/-- The texts the verifier of a session recomputes MACs over. -/
def checkedTexts (stack : Bytes) (db : Db) (s : Bytes) : Set Bytes :=
  {t | t ∈ entryTexts db ∨
    ∃ r ∈ db.heads.rows, headBytes stack s r.lastSequence (snprintfS 65 r.lastEntryHash) = t}

/-- No forgery: a MAC of the daemon's is a MAC of no other text that is checked. -/
def NoForgery (C : Crypto) (K : Bytes) (checked written : Set Bytes) : Prop :=
  ∀ x ∈ checked, ∀ y ∈ written, C.hmac K x = C.hmac K y → x = y

/-- The edited rows carry, as they are read, only MAC values of the given set. -/
structure OnlyMacs (values : Set Bytes) (db : Db) : Prop where
  entries : ∀ r ∈ db.entries.rows, snprintfS 65 r.chainHmac ∈ values
  heads : ∀ r ∈ db.heads.rows, snprintfS 65 r.headHmac ∈ values

variable {row : HeadRow} {stack s : Bytes} {i : Logged}

theorem headGet_of_mem (h : row ∈ db.heads.rows) : db.headGet row.sessionId = some row := by
  obtain ⟨row', hfind⟩ := Option.isSome_iff_exists.mp
    (show (db.headGet row.sessionId).isSome by
      rw [Db.headGet, find?_isSome]
      exact ⟨row, h, by simp⟩)
  have hkey : row'.sessionId = row.sessionId := by simpa using find?_some hfind
  have heq : row' = row :=
    Table.eq_of_clash (fun a b => by simp [HeadRow.clash, Bool.beq_comm]) db.heads
      (mem_of_find?_eq_some hfind) h (by simp [HeadRow.clash, hkey])
  rw [hfind, heq]

theorem Honest.head_of_mem (H : Honest C K db log) (h : row ∈ db.heads.rows) :
    ∃ j, (ofSession log row.sessionId).getLast? = some j ∧ HeadOf C K row.sessionId row j := by
  have hrel := H.heads row.sessionId
  rw [headGet_of_mem h] at hrel
  cases hj : (ofSession log row.sessionId).getLast? with
  | none =>
    rw [hj] at hrel
    cases hrel
  | some j =>
    rw [hj] at hrel
    cases hrel with
    | some hof => exact ⟨j, rfl, hof⟩

/-- **Every MAC of an honest database is the MAC of one of its texts.** -/
theorem Honest.macValue_text (H : Honest C K db log) {m : Bytes} (hm : m ∈ macValues db) :
    ∃ y ∈ macTexts db, m = C.hmacSha256Hex K y := by
  rcases hm with ⟨r, hr, rfl⟩ | ⟨r, hr, rfl⟩ | ⟨r, hr, rfl⟩ | ⟨r, hr, rfl⟩
  · have hr' := hr
    rw [H.rows_eq] at hr'
    obtain ⟨i, hi, rfl⟩ := mem_map.mp hr'
    refine ⟨_, Or.inl ⟨_, hr, rfl⟩, ?_⟩
    rw [read_canonical]
    have hmac : i.row.chainHmac = i.entry.chainHmac.bytes := rfl
    rw [hmac, (H.sealed i hi).hmac_eq, Field.bytes_copy]
    exact snprintfS_eq_self (fun hm => (C.plain_hmacSha256Hex _ _ _ hm).2 rfl) (by simp)
  · obtain ⟨j, -, hof⟩ := H.head_of_mem hr
    obtain ⟨stack, hmac⟩ := hof.mac_eq
    exact ⟨_, Or.inr (Or.inl ⟨r, hr, stack, rfl⟩), by rw [hmac, hof.seq_eq, hof.hash_eq]⟩
  · obtain ⟨stack, hmac⟩ := H.milestones r hr
    exact ⟨_, Or.inr (Or.inr (Or.inl ⟨r, hr, stack, rfl⟩)), hmac⟩
  · exact ⟨_, Or.inr (Or.inr (Or.inr ⟨r, hr, rfl⟩)), (H.intents r hr).2⟩

variable {x y h c : Bytes} {n : Int} {l : List Logged}

theorem hmac_eq_of_hex (h : C.hmacSha256Hex K x = C.hmacSha256Hex K y) :
    C.hmac K x = C.hmac K y := by
  have hbytes := hexEncode_injective h
  cases hx : C.hmac K x
  cases hy : C.hmac K y
  simp_all

theorem digest_eq_of_hex (h : C.sha256Hex x = C.sha256Hex y) : C.sha256 x = C.sha256 y := by
  have hbytes := hexEncode_injective h
  cases hx : C.sha256 x
  cases hy : C.sha256 y
  simp_all

theorem third_entry (e : Entry) : (buildCanonicalJson e)[2]? = some 0x61 := by
  rw [buildCanonicalJson, getElem?_append_left (by decide)]
  rfl

theorem third_headCanonical (s h : Bytes) (n : Int) : (headCanonical s n h)[2]? = some 0x6c := by
  rw [headCanonical, getElem?_append_left (by decide)]
  rfl

theorem third_milestoneJson (s h : Bytes) (n k : Int) : (milestoneJson s n k h)[2]? = some 0x63 := by
  simp only [milestoneJson, append_assoc]
  rw [getElem?_append_left (by decide)]
  rfl

theorem third_bufferBytes {t : Bytes} {b : UInt8} (h : t[2]? = some b) :
    (bufferBytes 512 t stack)[2]? = some b := by
  rw [getElem?_bufferBytes (by obtain ⟨hlt, -⟩ := List.getElem?_eq_some_iff.mp h; exact hlt) (by decide)]
  exact h

theorem lt_length_entry (e : Entry) : 64 < (buildCanonicalJson e).length := by
  have hkeys : (e.members.map (fun p => p.2.length)).sum = 212 := rfl
  rw [buildCanonicalJson, length_append, Delimited.length_fill, hkeys]
  omega

theorem le_length_headCanonical (s h : Bytes) (n : Int) : 80 ≤ (headCanonical s n h).length := by
  have hkeys : ((headMembers s n h).map (fun p => p.2.length)).sum = 60 := rfl
  have hopen : (text "\x7b\"last_entry_hash\":\"").length = 20 := rfl
  rw [headCanonical, length_append, Delimited.length_fill, hkeys, hopen]
  omega

theorem lt_length_headBytes (stack s h : Bytes) (n : Int) : 64 < (headBytes stack s n h).length := by
  have hlen := le_length_headCanonical s h n
  have := le_length_bufferBytes 512 (headCanonical s n h) stack
  unfold headBytes
  omega

/-- A written text that is an entry's text is the text of an entry row. -/
theorem Honest.entry_text (H : Honest C K db log) {e : Entry} (h : buildCanonicalJson e ∈ macTexts db) :
    ∃ i ∈ log, buildCanonicalJson i.entry = buildCanonicalJson e := by
  have hthird := third_entry e
  rcases h with ⟨r, hr, htext⟩ | ⟨r, -, stack, htext⟩ | ⟨r, -, stack, htext⟩ | ⟨r, hr, htext⟩
  · rw [H.rows_eq] at hr
    obtain ⟨i, hi, rfl⟩ := mem_map.mp hr
    exact ⟨i, hi, by rw [← htext, read_canonical]⟩
  · rw [← htext, headBytes, third_bufferBytes (third_headCanonical _ _ _)] at hthird
    exact absurd hthird (by decide)
  · rw [← htext, milestoneBytes, third_bufferBytes (third_milestoneJson _ _ _ _)] at hthird
    exact absurd hthird (by decide)
  · have h1 := lt_length_entry e
    have h2 := (H.intents r hr).1
    rw [htext] at h2
    omega

/-- A written text that is a head's text is the text of a head row. -/
theorem Honest.head_text (H : Honest C K db log) (hm : headBytes stack s n h ∈ macTexts db) :
    ∃ r ∈ db.heads.rows, ∃ stack', headBytes stack' r.sessionId r.lastSequence r.lastEntryHash =
      headBytes stack s n h := by
  have hthird : (headBytes stack s n h)[2]? = some 0x6c := third_bufferBytes (third_headCanonical _ _ _)
  rcases hm with ⟨r, -, htext⟩ | ⟨r, hr, stack', htext⟩ | ⟨r, -, stack', htext⟩ | ⟨r, hr, htext⟩
  · rw [← htext, third_entry] at hthird
    exact absurd hthird (by decide)
  · exact ⟨r, hr, stack', htext⟩
  · rw [← htext, milestoneBytes, third_bufferBytes (third_milestoneJson _ _ _ _)] at hthird
    exact absurd hthird (by decide)
  · have h1 := lt_length_headBytes stack s h n
    have h2 := (H.intents r hr).1
    rw [htext] at h2
    omega

/-- **An entry whose MAC checks out is one the daemon appended.** -/
theorem Honest.entry_is_logged (H : Honest C K db log)
    (hforge : NoForgery C K (checkedTexts stack db' s) (macTexts db))
    (hm : OnlyMacs (macValues db) db') {r : EntryRow} (hr : r ∈ db'.entries.rows) {sigs : Bool}
    (hmac : C.hmacSha256Hex K (buildCanonicalJson (readEntryFromStmt sigs r)) =
      (readEntryFromStmt sigs r).chainHmac.bytes) :
    ∃ i ∈ log, (readEntryFromStmt sigs r).core = i.entry.core := by
  obtain ⟨y, hy, heq⟩ := H.macValue_text (hm.entries r hr)
  have hxy : buildCanonicalJson (readEntryFromStmt sigs r) = y :=
    hforge _ (Or.inl ⟨r, hr, rfl⟩) y hy (hmac_eq_of_hex (hmac.trans heq))
  obtain ⟨i, hi, htext⟩ := H.entry_text (hxy ▸ hy)
  exact ⟨i, hi, core_eq_of_canonical_eq (H.sealed i hi).clean htext.symm⟩

/-- Sequence numbers stay below the number of appends. -/
theorem Honest.sequence_lt (H : Honest C K db log) (hi : i ∈ log) :
    0 ≤ i.entry.sequence ∧ i.entry.sequence < log.length := by
  have hmem : i ∈ group log i.column := by simp [group, hi]
  have hlink := H.linked i.column
  cases hg : group log i.column with
  | nil =>
    rw [hg] at hmem
    cases hmem
  | cons a l =>
    rw [hg] at hlink hmem
    obtain ⟨⟨stack, hl⟩, -⟩ := hlink
    have hbound := HashChain.Linked.seq_mem hl (mem_map_of_mem hmem)
    have hle : (group log i.column).length ≤ log.length := length_filter_le _ _
    rw [hg] at hle
    rw [length_map] at hbound
    omega

theorem zero_notMem_headCanonical (hs : ∀ b ∈ s, Plain b) (hh : ∀ b ∈ h, Plain b) :
    0 ∉ headCanonical s n h := by
  have hn : 0 ∉ Decimal.signed n := Decimal.notMem_signed (by decide) (by decide) n
  have hs0 : 0 ∉ s := fun hm => (hs 0 hm).2 rfl
  have hh0 : 0 ∉ h := fun hm => (hh 0 hm).2 rfl
  have hlit : 0 ∉ text "\x7b\"last_entry_hash\":\"" ∧
      0 ∉ text "\",\"last_sequence\":" ∧ 0 ∉ text ",\"session_id\":\"" ∧
      0 ∉ text "\",\"v\":\"VIRP-CHAIN-HEAD-v1\"\x7d" := by decide
  obtain ⟨h1, h2, h3, h4⟩ := hlit
  simp only [headCanonical, headMembers, Delimited.fill_cons, Delimited.fill_nil, mem_append,
    not_mem_nil, or_false, not_or]
  exact ⟨h1, ⟨hh0, h2⟩, ⟨hn, h3⟩, hs0, h4⟩

/-- **A head whose MAC checks out for a session names the daemon's last append to
it.** -/
theorem Honest.head_is_logged (H : Honest C K db log) (hshort : ∀ i ∈ log, i.session.length ≤ 236)
    (hlen : log.length < 2 ^ 63) (hforge : NoForgery C K (checkedTexts stack db' s) (macTexts db))
    (hm : OnlyMacs (macValues db) db') (hrow : row ∈ db'.heads.rows)
    (hmac : C.hmacSha256Hex K (headBytes stack s row.lastSequence (snprintfS 65 row.lastEntryHash)) =
      snprintfS 65 row.headHmac) :
    ∃ j, (ofSession log s).getLast? = some j ∧ row.lastSequence = j.entry.sequence := by
  set hash := snprintfS 65 row.lastEntryHash
  obtain ⟨y, hy, heq⟩ := H.macValue_text (hm.heads row hrow)
  have hxy : headBytes stack s row.lastSequence hash = y :=
    hforge _ (Or.inr ⟨row, hrow, rfl⟩) y hy (hmac_eq_of_hex (hmac.trans heq))
  obtain ⟨r, hr, stack', htext⟩ := H.head_text (hxy ▸ hy)
  obtain ⟨j, hj, hof⟩ := H.head_of_mem hr
  obtain ⟨hjlog, hjs⟩ := mem_ofSession (mem_of_getLast? hj)
  have hsealed := H.sealed j hjlog
  have hplain : ∀ b ∈ r.sessionId, Plain b := hjs ▸ hsealed.plain
  have hhash : ∀ b ∈ r.lastEntryHash, Plain b := hof.hash_eq ▸ hsealed.plain_hash
  -- the daemon's text fits its buffer, so it holds no zero byte
  have hfits : headBytes stack' r.sessionId r.lastSequence r.lastEntryHash =
      headCanonical r.sessionId r.lastSequence r.lastEntryHash := by
    refine headBytes_of_fits (hjs ▸ hshort j hjlog) ?_ ?_ stack'
    · rw [hof.hash_eq]
      have := j.entry.chainEntryHash.length_lt
      omega
    · rw [hof.seq_eq]
      have := H.sequence_lt hjlog
      omega
  -- hence the verifier's text fits too
  have hfits' : headBytes stack s row.lastSequence hash = headCanonical s row.lastSequence hash := by
    by_contra hne
    have hbig : ¬(headCanonical s row.lastSequence hash).length < 512 :=
      fun hlt => hne (bufferBytes_eq_self hlt)
    have hzero : (0 : UInt8) ∈ headBytes stack s row.lastSequence hash :=
      zero_mem_bufferBytes (by decide) hbig
    rw [← htext, hfits] at hzero
    exact zero_notMem_headCanonical hplain hhash hzero
  rw [hfits, hfits'] at htext
  obtain ⟨hs, hn, -⟩ := headCanonical_inj (fun hq => (hplain _ hq).1 rfl) (fun hq => (hhash _ hq).1 rfl)
    htext.symm
  exact ⟨j, hs ▸ hj, hn.trans hof.seq_eq⟩

/-! ## The verified list -/

/-- The genesis texts of the daemon's sessions. -/
def genesisTexts (log : List Logged) : Set Bytes := {t | ∃ i ∈ log, genesisText i.session = t}

/-- The linking of a column, on the logged appends. -/
theorem LinkedGroup.linked (h : LinkedGroup C c (i :: l)) : ∃ stack,
    HashChain.Linked (fun i : Logged => i.entry.sequence) (fun i => i.entry.previousEntryHash.bytes)
      (fun i => i.entry.chainEntryHash.bytes) 0 (computeGenesisHash C stack i.session) (i :: l) := by
  obtain ⟨⟨stack, hl⟩, -⟩ := h
  exact ⟨stack, (HashChain.linked_map Logged.entry (i :: l)).mp hl⟩

/-- A session that came first in its column owns the column's beginning, up to its
last append. -/
theorem Honest.ofSession_eq_take (H : Honest C K db log) {j : Logged} (hc : c = s.take 63)
    (hg : group log c = i :: l) (hi : i.session = s) (hj : (ofSession log s).getLast? = some j) :
    ofSession log s = (group log c).take (j.entry.sequence + 1).toNat := by
  have hlink := H.linked c
  rw [hg] at hlink
  obtain ⟨stack, hl⟩ := hlink.linked
  -- the session's appends lie in the column
  have hsub : ofSession log s = (i :: l).filter (fun x => x.session == s) := by
    rw [← hg, group, filter_filter]
    refine filter_congr ?_
    intro x hx
    by_cases hxs : x.session = s
    · simp [(H.sealed x hx).column_eq, hxs, hc]
    · simp [hxs]
  by_cases hsc : s = c
  · -- the id fits: the whole column is the session's
    have hall : ofSession log s = i :: l := by
      rw [hsub, filter_eq_self]
      intro x hx
      rcases mem_cons.mp hx with rfl | hx
      · simp [hi]
      · simp [hlink.2 x hx, hsc]
    rw [hall] at hj ⊢
    obtain ⟨m, hm⟩ := getLast?_eq_some_iff.mp hj
    have hseq : j.entry.sequence = (m.length : Int) := by
      have := (HashChain.linked_concat.mp (hm ▸ hl)).2.1
      omega
    rw [hg, hm, hseq]
    exact (take_of_length_le (by simp)).symm
  · -- the id is longer than the column: only the first append is the session's
    have hone : ofSession log s = [i] := by
      rw [hsub, filter_cons_of_pos (by simp [hi]), filter_eq_nil_iff.mpr]
      intro x hx
      simp [hlink.2 x hx, Ne.symm hsc]
    rw [hone] at hj ⊢
    obtain rfl : i = j := by simpa using hj
    have hzero : i.entry.sequence = 0 := hl.1
    rw [hg, hzero]
    rfl

/-- **A session that verifies under the chain key holds what the daemon appended to
it**: the entries that were read, in their canonical fields, are the log's, and none
is missing at the end. -/
theorem Honest.verified_is_log (H : Honest C K db log) (hshort : ∀ i ∈ log, i.session.length ≤ 236)
    (hlen : log.length < 2 ^ 63) (hsha : Set.InjOn C.sha256 (genesisTexts log))
    (hm : OnlyMacs (macValues db) db') {v : Handle} (hk : v.haveChainKey = true)
    (hK : v.chainKey = K) {env : ReadEnv}
    (hforge : NoForgery C K (checkedTexts env.stack db' s) (macTexts db))
    (hv : SessionValid C parse v env db' s row) :
    (entriesRead v db' s 0 row.lastSequence).map Entry.core =
      (ofSession log s).map (fun i => i.entry.core) := by
  have hheadMac := hmac_of_checkHead hk hv.headOk
  rw [hK] at hheadMac
  obtain ⟨j, hj, hseq⟩ := H.head_is_logged hshort hlen hforge hm (mem_of_find?_eq_some hv.head)
    hheadMac
  obtain ⟨hjlog, hjs⟩ := mem_ofSession (mem_of_getLast? hj)
  have hs0 : 0 ∉ s := fun h0 => (hjs ▸ (H.sealed j hjlog).plain) 0 h0 |>.2 rfl
  -- every entry that was read is one of the column's
  have hlogged : ∀ e ∈ entriesRead v db' s 0 row.lastSequence, ∃ i ∈ group log (s.take 63),
      e.core = i.entry.core ∧ e.sequence = i.entry.sequence := by
    intro e he
    have hmac := ((hv.authentic e he).hmac_eq hk).2
    rw [hK] at hmac
    obtain ⟨r, hr, hrs, rfl⟩ := mem_entriesRead he
    obtain ⟨i, hi, hcore⟩ := H.entry_is_logged hforge hm hr hmac
    have hcol := Entry.congr_core (fun e => e.sessionId.bytes) (fun _ => rfl) hcore
    refine ⟨i, mem_filter.mpr ⟨hi, ?_⟩, hcore, Entry.congr_core Entry.sequence (fun _ => rfl) hcore⟩
    rw [Logged.column, ← hcol, beq_iff_eq]
    simp only [readEntryFromStmt, Field.bytes_copy, hrs, snprintfS, cstr_eq_self hs0]
  have hpos : 0 < (entriesRead v db' s 0 row.lastSequence).length := by
    have h1 := hv.complete
    have h2 := hv.nonneg
    omega
  cases hg : group log (s.take 63) with
  | nil =>
    obtain ⟨i, hi, -⟩ := hlogged _ (getElem_mem hpos)
    rw [hg] at hi
    cases hi
  | cons i l =>
    have hlink := H.linked (s.take 63)
    rw [hg] at hlink hlogged
    obtain ⟨stack, hl⟩ := hlink.linked
    have htake := HashChain.Linked.map_eq_take hv.linked hl hlogged
    -- the first entry links to the genesis hash of the session
    have hi : i.session = s := by
      have hilog : i ∈ log := mem_of_mem_filter (hg ▸ mem_cons_self)
      cases hes : entriesRead v db' s 0 row.lastSequence with
      | nil => simp [hes] at hpos
      | cons e es =>
        rw [hes] at htake
        have hcore : e.core = i.entry.core := by simpa using (cons.inj htake).1
        have hprev := Entry.congr_core (fun e => e.previousEntryHash.bytes) (fun _ => rfl) hcore
        have hlinked := hv.linked
        rw [hes] at hlinked
        have hgen : C.sha256Hex (genesisText s) = C.sha256Hex (genesisText i.session) := by
          rw [← computeGenesisHash_of_fits (hjs ▸ hshort j hjlog) env.stack,
            ← computeGenesisHash_of_fits (hshort i hilog) stack, ← hlinked.2.1, ← hl.2.1]
          exact hprev
        have htext := hsha ⟨i, hilog, rfl⟩ ⟨j, hjlog, by rw [hjs]⟩ (digest_eq_of_hex hgen.symm)
        exact append_cancel_left htext
    rw [htake, H.ofSession_eq_take rfl hg hi hj, hg]
    congr 2
    have := hv.complete
    omega

/-- **Tamper evidence.**  Whatever rows an editor without the chain key leaves behind
after a run of the daemon, if a session then verifies under the chain key, the entries
the verifier read are exactly the ones the daemon appended to it. -/
theorem tampered_session_is_log {ops : List ChainOp} (hkey : ∀ op ∈ ops, op.UsesKey K)
    (hshort : ∀ i ∈ (run C ops).log, i.session.length ≤ 236)
    (hlen : (run C ops).log.length < 2 ^ 63)
    (hsha : Set.InjOn C.sha256 (genesisTexts (run C ops).log))
    (hm : OnlyMacs (macValues (run C ops).store.committed) db') (v : Handle)
    (hk : v.haveChainKey = true) (hK : v.chainKey = K) (env : ReadEnv) (s : Bytes)
    (hforge : NoForgery C K (checkedTexts env.stack db' s) (macTexts (run C ops).store.committed))
    (hvalid : (chainVerifySessionLocked C parse v env db' s).valid = true) :
    ∃ row, db'.headGet s = some row ∧
      (entriesRead v db' s 0 row.lastSequence).map Entry.core =
        (ofSession (run C ops).log s).map (fun i => i.entry.core) := by
  obtain ⟨row, hv⟩ := valid_iff.mp hvalid
  exact ⟨row, hv.head, (honest_run hkey).verified_is_log hshort hlen hsha hm hk hK hforge hv⟩

namespace Sample

def writes : List ChainOp := [.append handle env observation]

/-- A copy of the observation's row, moved to another session with its MAC. -/
def replayedRow : EntryRow where
  rowid := 2
  sessionId := text "s2"
  sequence := 0
  chainEntryHash := zeroHash
  previousEntryHash := genesis
  timestampNs := 1000
  monotonicNs := 7
  artifactType := text "observation"
  artifactId := text "o1"
  artifactHash := observation.artifactHash
  artifactHashAlg := text "sha256"
  artifactSchemaVersion := text "1"
  signerNodeId := 1
  signerOrgId := text "local"
  chainHmac := text "26e7bc543a2a41002b956e6e1928cc168e57c264ce1990c034e011128d74df99"
  chainSig := none
  chainSigKeyId := none

def edited : Db :=
  { (run crypto writes).store.committed with
    entries := (run crypto writes).store.committed.entries.insertOrIgnore replayedRow }

/-- Known MACs cannot be forged: a database whose MACed texts are all in the table. -/
theorem noForgery_known {hashes keys : List (Bytes × Bytes)}
    {macs sigs : List ((Bytes × Bytes) × Bytes)} (hd : DistinctDigests macs) {K : Bytes} {db : Db}
    (hentries : ∀ r ∈ db.entries.rows,
      (macs.lookup (K, buildCanonicalJson (readEntryFromStmt false r))).isSome)
    (hheads : ∀ r ∈ db.heads.rows,
      (r.sessionId.length ≤ 236 ∧ r.lastEntryHash.length ≤ 64 ∧ r.lastSequence.natAbs < 10 ^ 20) ∧
      (macs.lookup (K, headCanonical r.sessionId r.lastSequence r.lastEntryHash)).isSome)
    (hnone : db.milestones.rows = [] ∧ db.intents.rows = []) (checked : Set Bytes) :
    NoForgery (.known hashes macs keys sigs) K checked (macTexts db) := by
  intro x _ y hy
  refine Crypto.known_hmac_inj hd ?_
  rcases hy with ⟨q, hq, rfl⟩ | ⟨q, hq, stack, rfl⟩ | ⟨q, hq, -⟩ | ⟨q, hq, -⟩
  · exact hentries q hq
  · obtain ⟨⟨h1, h2, h3⟩, hsome⟩ := hheads q hq
    rw [headBytes_of_fits h1 h2 h3]
    exact hsome
  · rw [hnone.1] at hq
    cases hq
  · rw [hnone.2] at hq
    cases hq

theorem noForgery_edited : NoForgery crypto handle.chainKey
    (checkedTexts readEnv.stack edited (text "s1")) (macTexts (run crypto writes).store.committed) :=
  noForgery_known (by decide +kernel) (by decide +kernel) (by decide +kernel) (by decide +kernel) _

theorem onlyMacs_edited : OnlyMacs (macValues (run crypto writes).store.committed) edited := by
  have hentries : ∀ r ∈ edited.entries.rows, ∃ q ∈ (run crypto writes).store.committed.entries.rows,
      q.chainHmac = snprintfS 65 r.chainHmac := by decide +kernel
  have hheads : ∀ r ∈ edited.heads.rows, ∃ q ∈ (run crypto writes).store.committed.heads.rows,
      q.headHmac = snprintfS 65 r.headHmac := by decide +kernel
  exact ⟨fun r hr => Or.inl (hentries r hr), fun r hr => Or.inr (Or.inl (hheads r hr))⟩

theorem valid_edited : (chainVerifySessionLocked crypto parseCitation handle readEnv edited
    (text "s1")).valid = true := by decide +kernel

end Sample

open Sample

/-- A replayed row in another session leaves the observation's session valid, and
what is read there is the observation. -/
theorem tampered_session_is_log_replayed :
    (ofSession (run crypto writes).log (text "s1")).length = 1 ∧
    ∃ row, edited.headGet (text "s1") = some row ∧
      (entriesRead handle edited (text "s1") 0 row.lastSequence).map Entry.core =
        (ofSession (run crypto writes).log (text "s1")).map (fun i => i.entry.core) := by
  have hone : (run crypto writes).log.length = 1 := by decide +kernel
  have hkey : ∀ op ∈ writes, op.UsesKey handle.chainKey := by
    simp [writes, ChainOp.UsesKey]
  have hshort : ∀ i ∈ (run crypto writes).log, i.session.length ≤ 236 := by decide +kernel
  have hsha : Set.InjOn crypto.sha256 (genesisTexts (run crypto writes).log) := by
    rintro x ⟨i, hi, rfl⟩ y ⟨j, hj, rfl⟩ -
    obtain ⟨a, ha⟩ := length_eq_one_iff.mp hone
    rw [ha, mem_singleton] at hi hj
    rw [hi, hj]
  have hlen : (run crypto writes).log.length < 2 ^ 63 := by
    rw [hone]
    decide
  refine ⟨by decide +kernel, ?_⟩
  exact tampered_session_is_log (C := crypto) hkey hshort hlen hsha onlyMacs_edited
    handle rfl rfl readEnv (text "s1") noForgery_edited valid_edited

end Virp
