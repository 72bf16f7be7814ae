import Virp.ChainVerdict

/-! # Runs of an honest daemon

A run starts from an empty database and is a list of operations: appends, each
with the handle, arguments and environment it happens to have, stores of intents,
and reopening the database.  Beside the store it keeps a log of the appends whose
entry landed: those that returned OK, and those that returned an error after the read
of the last entry had lost their transaction and the row went in by itself.

`Honest` relates the committed database to the log.  The rows are the log's
entries; the entries of one `session_id` column are linked from a genesis hash;
every head names the last entry of its session.  An append that landed without
returning OK is the first of its session, and may leave it without a head.  One step
keeps all this (`Honest.step`), so every run does (`honest_run`).

The column holds only the first 63 bytes of a session id.  A longer id never finds
its own rows again, and shares its column with others; the invariant is stated column
by column to cover such runs.
-/
namespace Virp

open List

variable (C : Crypto)

/-! ## Operations -/

/-- Something the daemon does with its chain. -/
inductive ChainOp where
  | append (h : Handle) (env : Env) (call : AppendCall)
  | storeIntent (h : Handle) (fails : Bool) (intentId : Field 128) (intentHash : Field 65)
  | reopen

/-- An append whose entry landed: the session it went to, its entry, how it was
inserted, and whether it returned OK. -/
structure Logged where
  session : Bytes
  entry : Entry
  signed : Bool
  rowid : Nat
  acked : Bool
deriving DecidableEq

/-- The row of a logged append. -/
def Logged.row (i : Logged) : EntryRow := insertRow i.signed i.rowid i.entry

/-- The store, and the appends that landed, oldest first. -/
structure RunState where
  store : Store
  log : List Logged

/-- The session an append goes to. -/
def destination (h : Handle) (s : Bytes) : Bytes :=
  match epochSession h s with
  | .ok (t, _) => t
  | .error _ => s

/-- What an append adds to the log. -/
def chainLogged (h : Handle) (env : Env) (st : Store) (call : AppendCall) : Option Logged :=
  (chainAppend C h env st call).landed.map fun e => ⟨destination h call.sessionId, e,
    h.signEnabled, st.committed.nextRowid, (chainAppend C h env st call).result.isOk⟩

/-- `chain_intent_store_locked`: an `INSERT OR REPLACE` into whatever the
connection is writing to. -/
def chainIntentStoreLocked (h : Handle) (fails : Bool) (st : Store) (intentId : Field 128)
    (intentHash : Field 65) : Store :=
  let put (db : Db) : Db := { db with intents := db.intents.replace {
    intentId := intentId.bytes, intentHash := intentHash.bytes,
    signatureHmac := C.hmacSha256Hex h.chainKey intentHash.bytes } }
  if h.readOnly || fails then st
  else
    match st.txn with
    | some db => ⟨st.committed, some (put db)⟩
    | none => ⟨put st.committed, none⟩

/-- One operation. -/
def runStep (r : RunState) : ChainOp → RunState
  | .append h env call =>
    ⟨(chainAppend C h env r.store call).store,
      r.log ++ (chainLogged C h env r.store call).toList⟩
  | .storeIntent h fails intentId intentHash =>
    ⟨chainIntentStoreLocked C h fails r.store intentId intentHash, r.log⟩
  | .reopen => ⟨⟨r.store.committed, none⟩, r.log⟩

/-- A run from an empty database. -/
def run (ops : List ChainOp) : RunState := ops.foldl (runStep C) ⟨Store.empty, []⟩

variable {ops : List ChainOp} {st st' : Store} {c : Bytes} {l : List Logged}

/-- What holds at the start and is kept by every operation of a run holds after the
run. -/
theorem run_induction {P : RunState → Prop} (h0 : P ⟨Store.empty, []⟩)
    (hstep : ∀ r, ∀ op ∈ ops, P r → P (runStep C r op)) : P (run C ops) :=
  foldlRecOn ops (runStep C) h0 (fun r hr op hop => hstep r op hop hr)

/-- The operation works under the chain key `K`. -/
def ChainOp.UsesKey (K : Bytes) : ChainOp → Prop
  | .append h _ _ => h.chainKey = K
  | .storeIntent h _ _ _ => h.chainKey = K
  | .reopen => True

/-- A body that is appended hashes to the commitment beside it. -/
def ChainOp.BodyCommitted : ChainOp → Prop
  | .append _ _ call =>
    let body := cstr (call.artifactContent.getD [])
    body ≠ [] → artifactDigest C body = some call.artifactHash
  | _ => True

variable {C} {h : Handle} {env : Env} {call : AppendCall} {e : Entry} {db' : Db} {i : Logged} {s : Bytes}

/-- The milestone after a commit touches the milestones only. -/
theorem afterCommit_eq {db : Db} : afterCommit C h env db s e =
      { db with milestones := (afterCommit C h env db s e).milestones } := by
  unfold afterCommit insertMilestone
  split
  · simp only
    split <;> rfl
  · rfl

/-- The append lands: its row is committed and nothing is left open.  If it returned OK the
whole transaction is there; if not, the entry is the first of its session. -/
structure EntryLands (C : Crypto) (h : Handle) (env : Env) (st : Store) (call : AppendCall) (db' : Db)
    (e : Entry) : Prop where
  landed : (chainAppend C h env st call).landed = some e
  store_eq : (chainAppend C h env st call).store =
    ⟨afterCommit C h env db' (destination h call.sessionId) e, none⟩
  idle : st.txn = none
  strings : appendStringsOk (destination h call.sessionId) call = true
  row : RowDone C h env call (destination h call.sessionId) st.committed db' e
  acked : (chainAppend C h env st call).result.isOk = true →
    TxnDone C h env call (destination h call.sessionId) st.committed db' e
  unacked : (chainAppend C h env st call).result.isOk = false →
    env.fails .getLastRolledBack = true ∧ e.sequence = 0
  result : ∀ e', (chainAppend C h env st call).result = .ok e' → e' = e

theorem sequence_of_lost (hlost : env.fails .getLastRolledBack = true)
    (D : RowDone C h env call s st.committed db' e) : e.sequence = 0 := by
  have hlink : nextLink C env st.committed s = (0, computeGenesisHash C env.stack s) := by
    simp [nextLink, hlost]
  exact (congrArg Entry.sequence D.core_eq).trans (by rw [hlink]; rfl)

/-- **What an append comes to**: an error and the committed database as it was, or an entry
that landed. -/
theorem chainAppend_cases (C : Crypto) (h : Handle) (env : Env) (st : Store) (call : AppendCall) :
    ((chainAppend C h env st call).landed = none ∧
      (chainAppend C h env st call).store.committed = st.committed ∧
      ∃ err, (chainAppend C h env st call).result = .error err) ∨
    ∃ db' e, EntryLands C h env st call db' e := by
  have refused : ∀ {a : Appended} {st' : Store} {err : VirpError}, a = ⟨st', none, .error err⟩ →
      st'.committed = st.committed →
      a.landed = none ∧ a.store.committed = st.committed ∧ ∃ err, a.result = .error err := by
    rintro _ st' err rfl hst
    exact ⟨rfl, hst, err, rfl⟩
  by_cases hro : h.readOnly = true
  · exact .inl (refused (by rw [chainAppend, if_pos hro]) rfl)
  cases hdest : epochSession h call.sessionId with
  | error err => exact .inl (refused (by rw [chainAppend, if_neg hro, hdest]) rfl)
  | ok dest =>
  obtain ⟨s, useEpoch⟩ := dest
  have hs : destination h call.sessionId = s := by rw [destination, hdest]
  by_cases hstr : appendStringsOk s call = false
  · exact .inl (refused (by
      simp only [chainAppend, if_neg hro, hdest, if_pos hstr]
      rfl) rfl)
  by_cases hbegin : (env.fails .begin || st.txn.isSome) = true
  · exact .inl (refused (by
      simp only [chainAppend, if_neg hro, hdest, if_neg hstr, if_pos hbegin]
      rfl) rfl)
  have hidle : st.txn = none := by
    simp only [Bool.or_eq_true, not_or, Option.not_isSome_iff_eq_none] at hbegin
    exact hbegin.2
  rw [Bool.not_eq_false] at hstr
  by_cases hlost : env.fails .getLastRolledBack = true
  · have heq := chainAppend_of_lost (C := C) hro hdest hstr hbegin hlost
    rcases appendLost_cases (C := C) h env call s useEpoch st.committed with
      ⟨err, hnone⟩ | ⟨db', e, err, hsome, D⟩
    · rw [hnone] at heq
      exact .inl (refused heq rfl)
    · rw [hsome] at heq
      have hseq := sequence_of_lost hlost D
      have hafter : afterCommit C h env db' s e = db' := by rw [afterCommit, if_neg (by omega)]
      refine .inr ⟨db', e, ⟨by rw [heq], by rw [heq, hs, hafter], hidle, hs ▸ hstr, hs ▸ D, ?_,
        fun _ => ⟨hlost, hseq⟩, ?_⟩⟩
      · intro hok
        rw [heq] at hok
        cases hok
      · intro e' hok
        rw [heq] at hok
        cases hok
  have heq := chainAppend_of_txn (C := C) hro hdest hstr hbegin hlost
  cases htxn : appendTxn C h env call s useEpoch st.committed with
  | error err =>
    rw [htxn] at heq
    exact .inl (refused heq rfl)
  | ok done =>
  obtain ⟨db', e⟩ := done
  rw [htxn] at heq
  cases hcommit : env.commit with
  | failedOpen =>
    rw [hcommit] at heq
    exact .inl (refused heq rfl)
  | failedRolledBack =>
    rw [hcommit] at heq
    exact .inl (refused heq rfl)
  | ok =>
    have D := appendTxn_ok htxn
    rw [hcommit] at heq
    refine .inr ⟨db', e, ⟨by rw [heq], by rw [heq, hs], hidle, hs ▸ hstr, hs ▸ D.toRowDone,
      fun _ => hs ▸ D, ?_, ?_⟩⟩
    · intro hfail
      rw [heq] at hfail
      cases hfail
    · intro e' hok
      rw [heq] at hok
      exact (Except.ok.inj hok).symm

/-- **What one operation can do** to the committed database and the log. -/
theorem runStep_cases (r : RunState) (op : ChainOp) :
    ((runStep C r op).store.committed = r.store.committed ∧ (runStep C r op).log = r.log) ∨
    (∃ h fails intentId intentHash, op = .storeIntent h fails intentId intentHash ∧
      (runStep C r op).store.committed = { r.store.committed with
        intents := r.store.committed.intents.replace ⟨intentId.bytes, intentHash.bytes,
          C.hmacSha256Hex h.chainKey intentHash.bytes⟩ } ∧ (runStep C r op).log = r.log) ∨
    ∃ h env call db' e, op = .append h env call ∧ EntryLands C h env r.store call db' e ∧
      runStep C r op = ⟨⟨afterCommit C h env db' (destination h call.sessionId) e, none⟩,
        r.log ++ [⟨destination h call.sessionId, e, h.signEnabled, r.store.committed.nextRowid,
          (chainAppend C h env r.store call).result.isOk⟩]⟩ := by
  cases op with
  | append h env call =>
    rcases chainAppend_cases C h env r.store call with ⟨hnone, hstore, -⟩ | ⟨db', e, hl⟩
    · exact .inl ⟨hstore, by simp [runStep, chainLogged, hnone]⟩
    · refine .inr (.inr ⟨h, env, call, db', e, rfl, hl, ?_⟩)
      simp only [runStep, chainLogged, hl.landed, hl.store_eq, Option.map_some, Option.toList_some]
  | storeIntent h fails intentId intentHash =>
    simp only [runStep, chainIntentStoreLocked]
    split
    · exact Or.inl ⟨rfl, trivial⟩
    · split
      · exact Or.inl ⟨rfl, trivial⟩
      · exact Or.inr (Or.inl ⟨h, fails, intentId, intentHash, rfl, rfl, trivial⟩)
  | reopen => exact Or.inl ⟨rfl, rfl⟩

/-! ## The invariant -/

/-- The `session_id` column of a logged append. -/
def Logged.column (i : Logged) : Bytes := i.entry.sessionId.bytes

/-- The logged appends that share a column. -/
def group (log : List Logged) (c : Bytes) : List Logged := log.filter (fun i => i.column == c)

/-- The logged appends to a session. -/
def ofSession (log : List Logged) (s : Bytes) : List Logged := log.filter (fun i => i.session == s)

/-- The entry is sealed: hashed and MACed over a canonical text without quotes in
its strings. -/
structure Logged.Sealed (C : Crypto) (K : Bytes) (i : Logged) : Prop where
  session_eq : i.entry.sessionId = .copy 64 i.session
  plain : ∀ b ∈ i.session, Plain b
  hash_eq : i.entry.chainEntryHash = .copy 65 (C.sha256Hex (buildCanonicalJson i.entry))
  hmac_eq : i.entry.chainHmac = .copy 65 (C.hmacSha256Hex K (buildCanonicalJson i.entry))
  short : (buildCanonicalJson i.entry).length < 2048
  clean : i.entry.Clean

/-- The entries of one column are linked from the genesis hash of the session that
came first; the others went to the session the column spells out. -/
def LinkedGroup (C : Crypto) (c : Bytes) : List Logged → Prop
  | [] => True
  | i :: is =>
    (∃ stack, LinkedEntries 0 (computeGenesisHash C stack i.session) ((i :: is).map Logged.entry)) ∧
      ∀ j ∈ is, j.session = c

/-- The head row names the entry and is MACed. -/
structure HeadOf (C : Crypto) (K s : Bytes) (row : HeadRow) (i : Logged) : Prop where
  session_eq : row.sessionId = s
  seq_eq : row.lastSequence = i.entry.sequence
  hash_eq : row.lastEntryHash = i.entry.chainEntryHash.bytes
  mac_eq : ∃ stack, row.headHmac =
    C.hmacSha256Hex K (headBytes stack s i.entry.sequence i.entry.chainEntryHash.bytes)

/-- The head of a session against its last append: it names it, or is missing and the append
did not return OK. -/
inductive HeadFor (C : Crypto) (K s : Bytes) : Option HeadRow → Option Logged → Prop
  | none : HeadFor C K s none none
  | some {row : HeadRow} {i : Logged} (h : HeadOf C K s row i) : HeadFor C K s (some row) (some i)
  | missing {i : Logged} (h : i.acked = false) : HeadFor C K s none (some i)

/-- The bytes a milestone's MAC covers, through its 512-byte buffer. -/
def milestoneBytes (stack : Bytes) (m : MilestoneRow) : Bytes :=
  bufferBytes 512 (milestoneJson m.sessionId m.sequence m.entriesCovered m.cumulativeHash) stack

/-- **The committed database of an honest daemon**, against the log of its appends. -/
structure Honest (C : Crypto) (K : Bytes) (db : Db) (log : List Logged) : Prop where
  rows_eq : db.entries.rows = log.map Logged.row
  sealed : ∀ i ∈ log, i.Sealed C K
  linked : ∀ c, LinkedGroup C c (group log c)
  heads : ∀ s, HeadFor C K s (db.headGet s) (ofSession log s).getLast?
  unacked : ∀ i ∈ log, i.acked = false → i.entry.sequence = 0
  milestones : ∀ m ∈ db.milestones.rows, ∃ stack,
    m.chainHmac = C.hmacSha256Hex K (milestoneBytes stack m)
  intents : ∀ r ∈ db.intents.rows,
    r.intentHash.length ≤ 64 ∧ r.signatureHmac = C.hmacSha256Hex K r.intentHash

theorem Honest.empty {K : Bytes} : Honest C K Db.empty [] where
  rows_eq := rfl
  sealed := by simp
  linked := by simp [group, LinkedGroup]
  heads := fun _ => .none
  unacked := by simp
  milestones := by simp [Db.empty]
  intents := by simp [Db.empty]

@[simp] theorem Logged.row_sessionId (i : Logged) : i.row.sessionId = i.column := rfl

@[simp] theorem Logged.row_sequence (i : Logged) : i.row.sequence = i.entry.sequence := rfl

theorem LinkedGroup.pairwise (h : LinkedGroup C c l) :
    l.Pairwise (fun a b => a.entry.sequence < b.entry.sequence) := by
  cases l with
  | nil => exact Pairwise.nil
  | cons i is =>
    obtain ⟨⟨stack, hl⟩, -⟩ := h
    have hp := HashChain.Linked.pairwise hl
    rwa [pairwise_map] at hp

section
variable {K : Bytes} {db : Db} {log : List Logged}

/-- The rows of a column, in the order of their sequence numbers, are the log's. -/
theorem Honest.sessionRows_eq (H : Honest C K db log) (c : Bytes) :
    db.sessionRows c = (group log c).map Logged.row := by
  have hfilter : db.entries.rows.filter (·.sessionId == c) = (group log c).map Logged.row := by
    rw [H.rows_eq, filter_map]
    rfl
  rw [Db.sessionRows, hfilter]
  apply List.Pairwise.insertionSort_eq
  refine pairwise_map.mpr ((H.linked c).pairwise.imp ?_)
  intro a b hab
  exact Int.le_of_lt hab

theorem Honest.getLast_eq (H : Honest C K db log) (c : Bytes) :
    db.getLast c = (group log c).getLast?.map Logged.row := by
  rw [Db.getLast, H.sessionRows_eq, getLast?_map]

/-- A column is a session id cut to 63 bytes. -/
theorem Logged.Sealed.column_eq (h : i.Sealed C K) : i.column = i.session.take 63 := by
  have h0 : 0 ∉ i.session := fun hm => (h.plain 0 hm).2 rfl
  rw [Logged.column, h.session_eq, Field.bytes_copy, snprintfS, cstr_eq_self h0]

theorem plain_snprintfS {cap : Nat} {b : Bytes} (h : ∀ x ∈ b, Plain x) :
    ∀ x ∈ snprintfS cap b, Plain x := fun x hx => h x (mem_of_mem_snprintfS hx)

theorem plain_text_sha256 : ∀ x ∈ text "sha256", Plain x := by decide +kernel

theorem plain_text_one : ∀ x ∈ text "1", Plain x := by decide +kernel

/-- What the next append links to: the last entry of the column its session id
spells, or the genesis hash. -/
theorem Honest.nextLink_cases (H : Honest C K db log) (env : Env) (s : Bytes) :
    (∃ j, (group log s).getLast? = some j ∧
      nextLink C env db s = (j.entry.sequence + 1, j.entry.chainEntryHash.bytes)) ∨
    nextLink C env db s = (0, computeGenesisHash C env.stack s) := by
  unfold nextLink
  cases hf : env.fails .getLast || env.fails .getLastRolledBack with
  | true => exact Or.inr rfl
  | false =>
    simp only [Bool.false_eq_true, if_false]
    rw [H.getLast_eq]
    cases hj : (group log s).getLast? with
    | none => exact Or.inr rfl
    | some j =>
      refine Or.inl ⟨j, rfl, ?_⟩
      simp only [Option.map_some, Logged.row, insertRow]
      rw [snprintfS_eq_self j.entry.chainEntryHash.zero_notMem j.entry.chainEntryHash.length_lt]

theorem Logged.Sealed.plain_hash (h : i.Sealed C K) :
    ∀ x ∈ i.entry.chainEntryHash.bytes, Plain x := by
  rw [h.hash_eq]
  exact plain_snprintfS (C.plain_sha256Hex _)

theorem Honest.plain_nextLink (H : Honest C K db log) (env : Env) (s : Bytes) :
    ∀ x ∈ (nextLink C env db s).2, Plain x := by
  rcases H.nextLink_cases env s with ⟨j, hj, hl⟩ | hl
  · rw [hl]
    have hmem : j ∈ log := mem_of_mem_filter (mem_of_getLast? hj)
    exact (H.sealed j hmem).plain_hash
  · rw [hl]
    exact C.plain_sha256Hex _

/-- The entry of an append that lands is sealed. -/
theorem RowDone.sealed (H : Honest C K db log) (D : RowDone C h env call s db db' e)
    (hstr : appendStringsOk s call = true) (hK : h.chainKey = K) (signed : Bool) (rowid : Nat)
    (acked : Bool) : Logged.Sealed C K ⟨s, e, signed, rowid, acked⟩ := by
  simp only [appendStringsOk, Bool.and_eq_true] at hstr
  obtain ⟨⟨⟨hs, htype⟩, hid⟩, hhash⟩ := hstr
  refine ⟨congrArg Entry.sessionId D.core_eq, plain_of_canonicalStringOk hs, D.hash_eq,
    hK ▸ D.hmac_eq, D.short, ?_⟩
  have hclean : (populateEntry h env call s (nextLink C env db s)).Clean :=
    Entry.clean_of_strings (plain_snprintfS (plain_of_artifactHashOk hhash))
      (plain_snprintfS plain_text_sha256) (plain_snprintfS (plain_of_canonicalStringOk hid))
      (plain_snprintfS plain_text_one) (plain_snprintfS (plain_of_canonicalStringOk htype))
      (plain_snprintfS (H.plain_nextLink env s)) (plain_snprintfS (plain_of_canonicalStringOk hs))
      h.orgId_plain
  exact Entry.clean_of_canonical_eq hclean (by
    rw [← buildCanonicalJson_core e, D.core_eq, buildCanonicalJson_core])

theorem group_concat (log : List Logged) (i : Logged) (c : Bytes) :
    group (log ++ [i]) c = group log c ++ if i.column = c then [i] else [] := by
  by_cases h : i.column = c <;> simp [group, h]

theorem ofSession_concat (log : List Logged) (i : Logged) (s : Bytes) :
    ofSession (log ++ [i]) s = ofSession log s ++ if i.session = s then [i] else [] := by
  by_cases h : i.session = s <;> simp [ofSession, h]

/-- A column that is not empty is continued from its last entry. -/
theorem LinkedGroup.concat {j : Logged} (h : LinkedGroup C c l) (hj : l.getLast? = some j)
    (hs : i.session = c) (hseq : i.entry.sequence = j.entry.sequence + 1)
    (hprev : i.entry.previousEntryHash.bytes = j.entry.chainEntryHash.bytes) :
    LinkedGroup C c (l ++ [i]) := by
  obtain ⟨l, rfl⟩ := getLast?_eq_some_iff.mp hj
  -- the linking of the longer column, from that of the shorter one
  have hlink : ∀ {p : Bytes}, LinkedEntries 0 p ((l ++ [j]).map Logged.entry) →
      LinkedEntries 0 p ((l ++ [j] ++ [i]).map Logged.entry) := by
    intro p hl
    rw [map_append]
    refine HashChain.linked_concat.mpr ⟨hl, ?_, ?_⟩
    · rw [map_append] at hl
      have hlast := (HashChain.linked_concat.mp hl).2.1
      simp only [length_append, length_map, length_cons, length_nil] at hlast ⊢
      omega
    · rw [hprev]
      simp
  cases l with
  | nil =>
    obtain ⟨⟨stack, hl⟩, -⟩ := h
    exact ⟨⟨stack, hlink hl⟩, by simpa using hs⟩
  | cons a l =>
    obtain ⟨⟨stack, hl⟩, htail⟩ := h
    refine ⟨⟨stack, hlink hl⟩, ?_⟩
    intro x hx
    rcases mem_append.mp hx with hx | hx
    · exact htail x hx
    · rw [mem_singleton.mp hx, hs]

section
variable (H : Honest C K db log)
include H

/-- An entry whose sequence number is 0 was inserted into an empty column: its row
would clash with the first one there. -/
theorem Honest.group_eq_nil {signed : Bool} {n : Nat}
    (hfresh : ∀ r ∈ db.entries.rows, r.clash (insertRow signed n e) = false) (hseq : e.sequence = 0) :
   
    group log e.sessionId.bytes = [] := by
  cases hg : group log e.sessionId.bytes with
  | nil => rfl
  | cons i is =>
    have hmem : i ∈ group log e.sessionId.bytes := by rw [hg]; exact mem_cons_self
    obtain ⟨hi, hcol⟩ := mem_filter.mp hmem
    have hlink := H.linked e.sessionId.bytes
    rw [hg] at hlink
    obtain ⟨⟨stack, hzero, -⟩, -⟩ := hlink
    have hclash := hfresh i.row (by rw [H.rows_eq]; exact mem_map_of_mem hi)
    simp only [beq_iff_eq] at hcol
    simp [EntryRow.clash, Logged.row, insertRow, hzero, hseq, Logged.column] at hclash hcol
    exact absurd hcol hclash.1

/-- The column of the new entry, continued or started. -/
theorem Honest.linked_append (D : RowDone C h env call s db db' e) (signed : Bool) (n : Nat)
    (acked : Bool) (c : Bytes) :
    LinkedGroup C c (group (log ++ [⟨s, e, signed, n, acked⟩]) c) := by
  rw [group_concat]
  by_cases hc : Logged.column ⟨s, e, signed, n, acked⟩ = c
  swap
  · rw [if_neg hc, append_nil]
    exact H.linked c
  rw [if_pos hc]
  have hsess : e.sessionId = .copy 64 s := congrArg Entry.sessionId D.core_eq
  have hseq : e.sequence = (nextLink C env db s).1 := congrArg Entry.sequence D.core_eq
  have hprev : e.previousEntryHash = .copy 65 (nextLink C env db s).2 :=
    congrArg Entry.previousEntryHash D.core_eq
  rcases H.nextLink_cases env s with ⟨j, hj, hl⟩ | hl
  · -- the session id spells the column of an entry, so it fits
    have hjm := mem_filter.mp (mem_of_getLast? hj)
    have hjs : j.entry.sessionId.bytes = s := by simpa [Logged.column] using hjm.2
    have hcol : c = s := by
      rw [← hc, Logged.column, hsess, Field.bytes_copy, ← hjs]
      exact snprintfS_eq_self j.entry.sessionId.zero_notMem j.entry.sessionId.length_lt
    subst hcol
    refine (H.linked c).concat hj rfl (by rw [hseq, hl]) ?_
    rw [hprev, hl, Field.copy_bytes]
  · have hnil : group log c = [] := by
      rw [← hc]
      exact H.group_eq_nil D.fresh (by rw [hseq, hl])
    rw [hnil]
    refine ⟨⟨env.stack, by rw [hseq, hl], ?_, trivial⟩, by simp⟩
    change e.previousEntryHash.bytes = computeGenesisHash C env.stack s
    rw [hprev, hl]
    exact snprintfS_eq_self (fun hm => (C.plain_sha256Hex _ _ hm).2 rfl) (by simp [computeGenesisHash])

/-- An entry with number 0 is the first of its session. -/
theorem Honest.ofSession_eq_nil (D : RowDone C h env call s db db' e)
    (hstr : appendStringsOk s call = true) (hseq : e.sequence = 0) : ofSession log s = [] := by
  have hnil := H.group_eq_nil D.fresh hseq
  have hs0 : 0 ∉ s := fun hm => by
    simp only [appendStringsOk, Bool.and_eq_true] at hstr
    exact (plain_of_canonicalStringOk hstr.1.1.1 0 hm).2 rfl
  have hcol : e.sessionId.bytes = s.take 63 := by
    have hcopy : e.sessionId = .copy 64 s := congrArg Entry.sessionId D.core_eq
    rw [hcopy, Field.bytes_copy, snprintfS, cstr_eq_self hs0]
  refine eq_nil_iff_forall_not_mem.mpr fun i hi => ?_
  obtain ⟨hmem, hsess⟩ := mem_filter.mp hi
  have hin : i ∈ group log e.sessionId.bytes := by
    refine mem_filter.mpr ⟨hmem, ?_⟩
    rw [hcol, (H.sealed i hmem).column_eq, beq_iff_eq.mp hsess]
    exact beq_self_eq_true _
  rw [hnil] at hin
  cases hin

/-- The head of the new entry's session names it, or there is none; the others stay. -/
theorem Honest.heads_append (D : RowDone C h env call s db db' e)
    (hstr : appendStringsOk s call = true) (hK : h.chainKey = K) (signed : Bool) (n : Nat)
    {acked : Bool} (hacked : acked = true → TxnDone C h env call s db db' e)
    (hunacked : acked = false → e.sequence = 0) (t : Bytes) :
    HeadFor C K t (db'.headGet t) (ofSession (log ++ [⟨s, e, signed, n, acked⟩]) t).getLast? := by
  have upserted (sig : Bytes × Bytes) (hheads : db'.heads =
      db.heads.replace (headRow C h env s e.sequence e.chainEntryHash.bytes sig)) :
      HeadFor C K t (db'.headGet t)
        (ofSession (log ++ [⟨s, e, signed, n, acked⟩]) t).getLast? := by
    rw [Db.headGet_replace hheads, ofSession_concat]
    by_cases hst : s = t
    · subst hst
      rw [if_pos (show (headRow C h env s e.sequence e.chainEntryHash.bytes sig).sessionId = s from rfl),
        if_pos rfl, getLast?_concat]
      exact .some ⟨rfl, rfl, rfl, env.stack, by rw [← hK]; rfl⟩
    · rw [if_neg (show (headRow C h env s e.sequence e.chainEntryHash.bytes sig).sessionId ≠ t from hst),
        if_neg hst, append_nil]
      exact H.heads t
  rcases D.heads_cases with hsame | ⟨sig, hheads⟩
  swap
  · exact upserted sig hheads
  cases hack : acked with
  | true =>
    obtain ⟨sig, -, hheads⟩ := (hacked hack).heads_eq
    rw [← hack]
    exact upserted sig hheads
  | false =>
    -- the session was empty, so it had no head
    rw [ofSession_concat, show db'.headGet t = db.headGet t by rw [Db.headGet, Db.headGet, hsame]]
    by_cases hst : s = t
    · subst hst
      have hnil := H.ofSession_eq_nil D hstr (hunacked hack)
      have hold := H.heads s
      rw [hnil] at hold
      cases hrow : db.headGet s with
      | some row =>
        rw [hrow] at hold
        cases hold
      | none =>
        rw [if_pos rfl, getLast?_concat]
        exact .missing rfl
    · rw [if_neg hst, append_nil]
      exact H.heads t

/-- **An append that lands keeps the invariant.** -/
theorem Honest.append (D : RowDone C h env call s db db' e) (hstr : appendStringsOk s call = true)
    (hK : h.chainKey = K) {acked : Bool} (hacked : acked = true → TxnDone C h env call s db db' e)
    (hunacked : acked = false → e.sequence = 0) :
    Honest C K (afterCommit C h env db' s e)
      (log ++ [⟨s, e, h.signEnabled, db.nextRowid, acked⟩]) := by
  have hac := @afterCommit_eq C h env e s db'
  refine ⟨?_, ?_, H.linked_append D _ _ _, ?_, ?_, ?_, ?_⟩
  · rw [congrArg Db.entries hac, D.entries_eq, H.rows_eq, map_append]
    rfl
  · intro i hi
    rcases mem_append.mp hi with hi | hi
    · exact H.sealed i hi
    · rw [mem_singleton.mp hi]
      exact D.sealed H hstr hK _ _ _
  · intro t
    rw [hac]
    exact H.heads_append D hstr hK _ _ hacked hunacked t
  · intro i hi
    rcases mem_append.mp hi with hi | hi
    · exact H.unacked i hi
    · rw [mem_singleton.mp hi]
      exact hunacked
  · intro m hm
    unfold afterCommit insertMilestone at hm
    have hold : m ∈ db'.milestones.rows →
        ∃ stack, m.chainHmac = C.hmacSha256Hex K (milestoneBytes stack m) := by
      rw [D.milestones_eq]
      exact H.milestones m
    split at hm
    · simp only at hm
      split at hm
      · exact hold hm
      rw [Table.rows_replace] at hm
      rcases mem_append.mp hm with hm | hm
      · exact hold (mem_of_mem_filter hm)
      · rw [mem_singleton.mp hm]
        exact ⟨env.stack, by rw [← hK]; rfl⟩
    · exact hold hm
  · rw [congrArg Db.intents hac]
    simpa only [D.intents_eq] using H.intents

end

/-- **One operation keeps the invariant.** -/
theorem Honest.step {r : RunState} (H : Honest C K r.store.committed r.log) {op : ChainOp}
    (hop : op.UsesKey K) : Honest C K (runStep C r op).store.committed (runStep C r op).log := by
  rcases @runStep_cases C r op with ⟨hdb, hlog⟩ | ⟨h, fails, id, hash, rfl, hdb, hlog⟩ |
    ⟨h, env, call, db', e, rfl, hl, hrun⟩
  · rw [hdb, hlog]
    exact H
  · rw [hdb, hlog]
    refine ⟨H.rows_eq, H.sealed, H.linked, H.heads, H.unacked, H.milestones, ?_⟩
    intro row hrow
    rw [Table.rows_replace] at hrow
    rcases mem_append.mp hrow with hrow | hrow
    · exact H.intents row (mem_of_mem_filter hrow)
    · rw [mem_singleton.mp hrow]
      exact ⟨Nat.lt_succ_iff.mp hash.length_lt, by rw [← show h.chainKey = K from hop]⟩
  · rw [hrun]
    exact H.append hl.row hl.strings hop hl.acked fun hack => (hl.unacked hack).2

/-- **Every run of the daemon is honest.** -/
theorem honest_run (hops : ∀ op ∈ ops, op.UsesKey K) :
    Honest C K (run C ops).store.committed (run C ops).log := by
  refine run_induction C (P := fun r => Honest C K r.store.committed r.log) Honest.empty ?_
  intro r op hop H
  exact H.step (hops op hop)

end

end Virp
