import Virp.ChainRecord
import Virp.Errors
import Virp.Library.Table
import Mathlib.Data.List.Sort

/-! # The chain database

The tables of the chain's SQLite schema with their uniqueness constraints, the
statements the chain module prepares, and transactions.  A statement may also fail
for reasons of its own (a full disk, a lock, an I/O error); which ones do in a
call is part of the call's environment (`Env`).

`Store` is what a connection sees: the committed database, and the copy an open
transaction has been writing to.  `BEGIN` inside an open transaction is an error.
-/
namespace Virp

/-- A row of `artifacts`: a stored body. -/
structure ArtifactRow where
  artifactId : Bytes
  artifactType : Bytes
  artifactContent : Bytes
  artifactHash : Bytes
  sessionId : Bytes
  createdAtNs : Int
deriving DecidableEq

/-- A row of `chain_milestones`. -/
structure MilestoneRow where
  sessionId : Bytes
  sequence : Int
  entriesCovered : Int
  cumulativeHash : Bytes
  chainHmac : Bytes
  createdAtNs : Int
deriving DecidableEq

/-- A row of `intents`, as far as a MAC covers it. -/
structure IntentRow where
  intentId : Bytes
  intentHash : Bytes
  signatureHmac : Bytes
deriving DecidableEq

/-- `UNIQUE(session_id, sequence)`, and the unique index on `chain_entry_hash`. -/
def EntryRow.clash (a b : EntryRow) : Bool :=
  (a.sessionId == b.sessionId && a.sequence == b.sequence) || a.chainEntryHash == b.chainEntryHash

/-- `session_id TEXT PRIMARY KEY`. -/
def HeadRow.clash (a b : HeadRow) : Bool := a.sessionId == b.sessionId

/-- `UNIQUE(artifact_id, artifact_hash)`. -/
def ArtifactRow.clash (a b : ArtifactRow) : Bool :=
  a.artifactId == b.artifactId && a.artifactHash == b.artifactHash

/-- `UNIQUE(session_id, sequence)`. -/
def MilestoneRow.clash (a b : MilestoneRow) : Bool :=
  a.sessionId == b.sessionId && a.sequence == b.sequence

/-- `intent_id TEXT NOT NULL UNIQUE`. -/
def IntentRow.clash (a b : IntentRow) : Bool := a.intentId == b.intentId

/-- The database.  `nextRowid` is the `AUTOINCREMENT` counter of
`chain_entries`. -/
structure Db where
  entries : Table EntryRow EntryRow.clash
  heads : Table HeadRow HeadRow.clash
  artifacts : Table ArtifactRow ArtifactRow.clash
  milestones : Table MilestoneRow MilestoneRow.clash
  intents : Table IntentRow IntentRow.clash
  nextRowid : Nat
deriving DecidableEq

namespace Db

def empty : Db := ⟨.empty, .empty, .empty, .empty, .empty, 1⟩

/-- `... WHERE session_id = ? ORDER BY sequence ASC`. -/
def sessionRows (db : Db) (s : Bytes) : List EntryRow :=
  (db.entries.rows.filter (·.sessionId == s)).insertionSort (fun a b => a.sequence ≤ b.sequence)

/-- `... WHERE session_id = ? ORDER BY sequence DESC LIMIT 1`. -/
def getLast (db : Db) (s : Bytes) : Option EntryRow := (db.sessionRows s).getLast?

/-- `... WHERE session_id = ? AND sequence >= ? AND sequence <= ? ORDER BY sequence
ASC`. -/
def getRange (db : Db) (s : Bytes) (lo hi : Int) : List EntryRow :=
  (db.sessionRows s).filter (fun r => lo ≤ r.sequence && r.sequence ≤ hi)

/-- `SELECT ... FROM chain_heads WHERE session_id = ?`. -/
def headGet (db : Db) (s : Bytes) : Option HeadRow := db.heads.rows.find? (·.sessionId == s)

/-- `SELECT artifact_content FROM artifacts WHERE artifact_id = ? AND artifact_hash
= ?`. -/
def artifactContent (db : Db) (id hash : Bytes) : Option Bytes :=
  (db.artifacts.rows.find? (fun a => a.artifactId == id && a.artifactHash == hash)).map
    (·.artifactContent)

theorem mem_of_headGet {db : Db} {s : Bytes} {row : HeadRow} (h : db.headGet s = some row) :
    row ∈ db.heads.rows := List.mem_of_find?_eq_some h

/-- The stored body of an entry's row: the join on `(artifact_id, artifact_hash)`. -/
def bodyOf (db : Db) (r : EntryRow) : Option Bytes := db.artifactContent r.artifactId r.artifactHash

/-- The row with a given `chain_entry_hash`. -/
def entryByHash (db : Db) (h : Bytes) : Option EntryRow :=
  db.entries.rows.find? (·.chainEntryHash == h)

/-- Replacing a head changes the head of its own session only. -/
theorem headGet_replace {db db' : Db} {row : HeadRow} (h : db'.heads = db.heads.replace row)
    (s : Bytes) : db'.headGet s = if row.sessionId = s then some row else db.headGet s := by
  rw [headGet, headGet, h, Table.rows_replace, List.find?_append, List.find?_filter]
  by_cases hs : row.sessionId = s
  · have hnone : (db.heads.rows.find? fun a =>
        decide ((!a.clash row) = true ∧ (a.sessionId == s) = true)) = none := by
      simp [List.find?_eq_none, HeadRow.clash, ← hs]
    rw [hnone]
    simp [hs]
  · have hpred : (fun a : HeadRow =>
        decide ((!a.clash row) = true ∧ (a.sessionId == s) = true)) = fun a => a.sessionId == s := by
      funext a
      by_cases ha : a.sessionId = s
      · simp [HeadRow.clash, ha, Ne.symm hs]
      · simp [ha]
    rw [hpred]
    simp [hs]

end Db

/-- The steps of an append that can fail by themselves.  `getLastRolledBack` is a read
of the last entry that fails with an error after which SQLite has rolled the
transaction back by itself (out of memory, an I/O error). -/
inductive AppendStep where
  | begin | epochQuery | conflictQuery | getLast | getLastRolledBack | entryHmac | entrySign
  | insert | headHmac | headSign | headUpsert | artifactStore | milestoneHmac | milestoneInsert
deriving DecidableEq, Repr

/-- How a `COMMIT` ends.  A failed one leaves the transaction open (a busy
database) or has rolled it back (an I/O error). -/
inductive CommitOutcome where
  | ok | failedOpen | failedRolledBack
deriving DecidableEq, Repr

/-- The environment of one append: which steps fail, how the `COMMIT` ends, the
clocks, and what the stack holds behind a local buffer. -/
structure Env where
  fails : AppendStep → Bool
  commit : CommitOutcome
  wallNs : UInt64
  monoNs : UInt64
  stack : Bytes

/-- Nothing fails. -/
def Env.Fine (env : Env) : Prop := (∀ s, env.fails s = false) ∧ env.commit = .ok

/-- The committed database, and the working copy of an open transaction. -/
structure Store where
  committed : Db
  txn : Option Db
deriving DecidableEq

def Store.empty : Store := ⟨Db.empty, none⟩

/-- The database a query sees: the working copy of a transaction that a failed
`COMMIT` left open, or the committed one. -/
def Store.view (st : Store) : Db := st.txn.getD st.committed

/-- `virp_chain_state_t` apart from its database: how the chain was opened.
`virp_chain_init` refuses an organisation id that is not canonical. -/
structure Handle where
  nodeId : UInt32
  orgId : Field 64
  orgId_plain : ∀ b ∈ orgId.bytes, Plain b
  chainKey : Bytes
  haveChainKey : Bool
  readOnly : Bool
  signSeed : Option Bytes
  nativeEpoch : Field 17
  verifyPub : Option Bytes
  legacyNoHeads : Bool
  entrySigCols : Bool
  headSigCols : Bool

/-- The organisation id of a daemon that was given none. -/
theorem plain_local : ∀ b ∈ (Field.copy 64 (text "local")).bytes, Plain b := by decide +kernel

namespace Handle
variable (C : Crypto) (h : Handle)

/-- `state->sign_enabled`. -/
def signEnabled : Bool := h.signSeed.isSome

/-- `state->sign_key.key_id_hex`. -/
def signKeyIdHex (seed : Bytes) : Bytes := chainsignKeyIdHex C (C.keypair seed).bytes

end Handle

end Virp
