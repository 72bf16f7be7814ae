import Virp.ChainStore

/-! # Appending to the chain

`chain_append_locked` and the functions it calls.  Everything between `BEGIN` and
`COMMIT` is one function of the database (`appendTxn`) that either yields the new
database and the entry or an error, after which the caller has rolled back.

`appendTxn_ok` says once what a successful transaction did; every result about
appends goes through it.
-/
namespace Virp

variable (C : Crypto)

/-- The arguments of an append. -/
structure AppendCall where
  sessionId : Bytes
  artifactType : Bytes
  artifactId : Bytes
  artifactHash : Bytes
  artifactContent : Option Bytes
deriving DecidableEq

/-- `virp_chain_type_is_federation`. -/
def typeIsFederation (t : Bytes) : Bool :=
  [text "fed_request", text "fed_observation", text "fed_outcome", text "fed_error"].contains t

/-- `virp_chain_type_is_indirect`. -/
def typeIsIndirect (t : Bytes) : Bool :=
  [text "comparator_verdict", text "comparator_verd", text "chainwalk_summary",
    text "chainwalk_summa"].contains t

/-! ## The pieces of an append -/

/-- The session an append goes to: with a native epoch set, the daemon's own
sessions carry it as a suffix.  The flag says whether they did. -/
def epochSession (h : Handle) (s : Bytes) : Except VirpError (Bytes × Bool) :=
  let native := (text "approval:").isPrefixOf s || (text "gate-enforce:").isPrefixOf s ||
    (text "node-config:").isPrefixOf s
  if h.nativeEpoch.bytes ≠ [] ∧ native = true then
    if h.signEnabled = false ∨ (0x40 : UInt8) ∈ s then .error .invalidLength
    else
      let t := s ++ 0x40 :: h.nativeEpoch.bytes
      if 64 ≤ t.length then .error .invalidLength else .ok (t, true)
  else .ok (s, false)

/-- Some entry of the session is unsigned, or signed under another key. -/
def destinationTaken (h : Handle) (db : Db) (s : Bytes) : Bool :=
  let keyId := (h.signSeed.map (Handle.signKeyIdHex C)).getD []
  db.entries.rows.any (fun r => r.sessionId == s &&
    (r.chainSig.getD [] == [] || r.chainSigKeyId != some keyId))

/-- `native_epoch_destination_locked`. -/
def nativeEpochDestination (h : Handle) (env : Env) (db : Db) (s : Bytes) (useEpoch : Bool) :
    Except VirpError Unit :=
  if useEpoch && (env.fails .epochQuery || destinationTaken C h db s) then .error .chainDb else .ok ()

/-- A federation artifact id is already committed to other bytes. -/
def idConflict (db : Db) (id hash : Bytes) : Bool :=
  db.entries.rows.any (fun r => r.artifactId == id && r.artifactHash != hash)

/-- The federation retry gate, inside the append's own transaction. -/
def federationGate (env : Env) (db : Db) (call : AppendCall) : Except VirpError Unit :=
  if typeIsFederation call.artifactType then
    if env.fails .conflictQuery then .error .chainDb
    else if idConflict db call.artifactId call.artifactHash then .error .duplicateMismatch
    else .ok ()
  else .ok ()

/-- The next sequence number of a session and the hash to link to.  A step that
fails to read the last entry is taken for a session without entries. -/
def nextLink (env : Env) (db : Db) (s : Bytes) : Int × Bytes :=
  match (if env.fails .getLast || env.fails .getLastRolledBack then none else db.getLast s) with
  | some r => (r.sequence + 1, snprintfS 65 r.chainEntryHash)
  | none => (0, computeGenesisHash C env.stack s)

/-- The entry before it is hashed. -/
def populateEntry (h : Handle) (env : Env) (call : AppendCall) (s : Bytes) (link : Int × Bytes) :
    Entry where
  sessionId := .copy 64 s
  sequence := link.1
  chainEntryHash := .empty 65
  previousEntryHash := .copy 65 link.2
  timestampNs := env.wallNs
  monotonicNs := env.monoNs
  artifactType := .copy 16 call.artifactType
  artifactId := .copy 128 call.artifactId
  artifactHash := .copy 65 call.artifactHash
  artifactHashAlg := .copy 8 (text "sha256")
  artifactSchemaVersion := .copy 8 (text "1")
  signerNodeId := h.nodeId
  signerOrgId := h.orgId
  chainHmac := .empty 65
  chainSig := .empty 129
  chainSigKeyId := .empty 33

/-- The hex signature and key id of a text, when the handle signs. -/
def signText (h : Handle) (fails : Bool) (tag msg : Bytes) : Except VirpError (Bytes × Bytes) :=
  match h.signSeed with
  | none => .ok ([], [])
  | some seed =>
    match (if fails then none else chainsignSign C seed tag msg) with
    | none => .error .crypto
    | some sig => .ok (hexEncode sig.bytes, Handle.signKeyIdHex C seed)

/-- Return `err` if `bad`, go on otherwise. -/
def failIf (bad : Bool) (err : VirpError) : Except VirpError Unit :=
  if bad then .error err else .ok ()

/-- Hash, MAC and sign an entry: all over its canonical text. -/
def sealEntry (h : Handle) (env : Env) (e : Entry) : Except VirpError Entry := do
  failIf (2048 ≤ (buildCanonicalJson e).length) .bufferTooSmall
  failIf (env.fails .entryHmac) .crypto
  let sig ← signText C h (env.fails .entrySign) tagEntry (buildCanonicalJson e)
  .ok { e with
    chainEntryHash := .copy 65 (C.sha256Hex (buildCanonicalJson e))
    chainHmac := .copy 65 (C.hmacSha256Hex h.chainKey (buildCanonicalJson e))
    chainSig := .copy 129 sig.1
    chainSigKeyId := .copy 33 sig.2 }

/-- The `INSERT`: refused when it violates a uniqueness constraint. -/
def insertEntry (h : Handle) (env : Env) (db : Db) (e : Entry) : Except VirpError Db :=
  match (if env.fails .insert then none
    else db.entries.insert (insertRow h.signEnabled db.nextRowid e)) with
  | none => .error .chainDb
  | some t => .ok { db with entries := t, nextRowid := db.nextRowid + 1 }

/-- The head row of a session: MACed over its canonical text, and signed when the
handle signs. -/
def headRow (h : Handle) (env : Env) (s : Bytes) (seq : Int) (hash : Bytes) (sig : Bytes × Bytes) :
    HeadRow where
  sessionId := s
  lastSequence := seq
  lastEntryHash := hash
  headHmac := C.hmacSha256Hex h.chainKey (headBytes env.stack s seq hash)
  updatedAtNs := toColumn 64 env.wallNs.toNat
  headSig := if h.signEnabled then some sig.1 else none
  headSigKeyId := if h.signEnabled then some sig.2 else none

def headUpsertLocked (h : Handle) (env : Env) (db : Db) (s : Bytes) (seq : Int) (hash : Bytes) :
    Except VirpError Db := do
  failIf (env.fails .headHmac) .crypto
  let sig ← signText C h (env.fails .headSign) tagHead (headBytes env.stack s seq hash)
  failIf (env.fails .headUpsert) .chainDb
  .ok { db with heads := db.heads.replace (headRow C h env s seq hash sig) }

/-- `chain_artifact_store_locked`, for a body that is given and not empty. -/
def artifactStore (env : Env) (db : Db) (call : AppendCall) (s : Bytes) : Except VirpError Db :=
  match cstr (call.artifactContent.getD []) with
  | [] => .ok db
  | b :: body =>
    if env.fails .artifactStore then .error .chainDb
    else .ok { db with artifacts := db.artifacts.insertOrIgnore {
      artifactId := call.artifactId, artifactType := call.artifactType,
      artifactContent := b :: body, artifactHash := call.artifactHash, sessionId := s,
      createdAtNs := toColumn 64 env.wallNs.toNat } }

/-- The steps of an append up to its first write: the gates, and the sealed entry. -/
def prepareEntry (h : Handle) (env : Env) (call : AppendCall) (s : Bytes) (useEpoch : Bool) (db : Db) :
    Except VirpError Entry := do
  nativeEpochDestination C h env db s useEpoch
  federationGate env db call
  sealEntry C h env (populateEntry h env call s (nextLink C env db s))

/-- Everything an append does between `BEGIN` and `COMMIT`. -/
def appendTxn (h : Handle) (env : Env) (call : AppendCall) (s : Bytes) (useEpoch : Bool) (db : Db) :
    Except VirpError (Db × Entry) := do
  let e ← prepareEntry C h env call s useEpoch db
  let db ← insertEntry h env db e
  -- whatever fails inside the head update is reported as a database error
  let db ← (headUpsertLocked C h env db s e.sequence e.chainEntryHash.bytes).mapError
    (fun _ => .chainDb)
  let db ← artifactStore env db call s
  .ok (db, e)

/-- The same steps after the read of the last entry has lost the transaction: each write
commits by itself, the `ROLLBACK` of a failing step undoes nothing, and the `COMMIT` at the
end finds no transaction.  The database, the entry whose row is in it, and the error. -/
def appendLost (h : Handle) (env : Env) (call : AppendCall) (s : Bytes) (useEpoch : Bool) (db : Db) :
    Db × Option Entry × VirpError :=
  match prepareEntry C h env call s useEpoch db with
  | .error err => (db, none, err)
  | .ok e =>
    match insertEntry h env db e with
    | .error err => (db, none, err)
    | .ok db =>
      match headUpsertLocked C h env db s e.sequence e.chainEntryHash.bytes with
      | .error _ => (db, some e, .chainDb)
      | .ok db =>
        match artifactStore env db call s with
        | .error err => (db, some e, err)
        | .ok db => (db, some e, .chainDb)

/-- `insert_milestone`, after the `COMMIT`, in a transaction of its own. -/
def insertMilestone (h : Handle) (env : Env) (db : Db) (s : Bytes) (e : Entry) : Db :=
  let json := milestoneJson s e.sequence 100 e.chainEntryHash.bytes
  if env.fails .milestoneHmac || env.fails .milestoneInsert then db
  else { db with milestones := db.milestones.replace {
    sessionId := s, sequence := e.sequence, entriesCovered := 100,
    cumulativeHash := e.chainEntryHash.bytes,
    chainHmac := C.hmacSha256Hex h.chainKey (bufferBytes 512 json env.stack),
    createdAtNs := toColumn 64 env.wallNs.toNat } }

/-- Every hundredth entry of a session is followed by a milestone. -/
def afterCommit (h : Handle) (env : Env) (db : Db) (s : Bytes) (e : Entry) : Db :=
  if 0 < e.sequence ∧ e.sequence % 100 = 0 then insertMilestone C h env db s e else db

/-- The canonical-string checks of an append. -/
def appendStringsOk (s : Bytes) (call : AppendCall) : Bool :=
  canonicalStringOk s && canonicalStringOk call.artifactType &&
    canonicalStringOk call.artifactId && artifactHashOk call.artifactHash

/-- What an append comes to: the store it leaves, the entry whose row it has committed, and
what it returns. -/
structure Appended where
  store : Store
  landed : Option Entry
  result : Except VirpError Entry

/-- `chain_append_locked`. -/
def chainAppend (h : Handle) (env : Env) (st : Store) (call : AppendCall) : Appended :=
  if h.readOnly then ⟨st, none, .error .chainReadonly⟩
  else match epochSession h call.sessionId with
  | .error err => ⟨st, none, .error err⟩
  | .ok (s, useEpoch) =>
    if appendStringsOk s call = false then ⟨st, none, .error .invalidLength⟩
    else if env.fails .begin || st.txn.isSome then ⟨st, none, .error .chainDb⟩
    else if env.fails .getLastRolledBack then
      let r := appendLost C h env call s useEpoch st.committed
      ⟨⟨r.1, none⟩, r.2.1, .error r.2.2⟩
    else match appendTxn C h env call s useEpoch st.committed with
    | .error err => ⟨st, none, .error err⟩
    | .ok (db, e) =>
      match env.commit with
      | .ok => ⟨⟨afterCommit C h env db s e, none⟩, some e, .ok e⟩
      | .failedOpen => ⟨⟨st.committed, some db⟩, none, .error .chainDb⟩
      | .failedRolledBack => ⟨⟨st.committed, none⟩, none, .error .chainDb⟩

/-- What its caller sees of an append. -/
def chainAppendLocked (h : Handle) (env : Env) (st : Store) (call : AppendCall) :
    Store × Except VirpError Entry :=
  ((chainAppend C h env st call).store, (chainAppend C h env st call).result)

/-! ## What a successful append did -/

section
variable {C} {h : Handle} {env : Env} {st : Store} {call : AppendCall} {s : Bytes} {useEpoch : Bool}

/-- An append that has begun and loses its transaction. -/
theorem chainAppend_of_lost (hro : ¬ h.readOnly = true)
    (hdest : epochSession h call.sessionId = .ok (s, useEpoch)) (hstr : appendStringsOk s call = true)
    (hbegin : ¬ (env.fails .begin || st.txn.isSome) = true)
    (hlost : env.fails .getLastRolledBack = true) : chainAppend C h env st call =
      ⟨⟨(appendLost C h env call s useEpoch st.committed).1, none⟩,
        (appendLost C h env call s useEpoch st.committed).2.1,
        .error (appendLost C h env call s useEpoch st.committed).2.2⟩ := by
  simp only [chainAppend, if_neg hro, hdest, hstr, Bool.true_eq_false, if_false, if_neg hbegin,
    if_pos hlost]

/-- An append that has begun and keeps its transaction. -/
theorem chainAppend_of_txn (hro : ¬ h.readOnly = true)
    (hdest : epochSession h call.sessionId = .ok (s, useEpoch)) (hstr : appendStringsOk s call = true)
    (hbegin : ¬ (env.fails .begin || st.txn.isSome) = true)
    (hlost : ¬ env.fails .getLastRolledBack = true) : chainAppend C h env st call =
      match appendTxn C h env call s useEpoch st.committed with
      | .error err => ⟨st, none, .error err⟩
      | .ok (db, e) =>
        match env.commit with
        | .ok => ⟨⟨afterCommit C h env db s e, none⟩, some e, .ok e⟩
        | .failedOpen => ⟨⟨st.committed, some db⟩, none, .error .chainDb⟩
        | .failedRolledBack => ⟨⟨st.committed, none⟩, none, .error .chainDb⟩ := by
  simp only [chainAppend, if_neg hro, hdest, hstr, Bool.true_eq_false, if_false, if_neg hbegin,
    if_neg hlost]

end

/-- The signature of an entry is the handle's signature of its canonical text. -/
def SignedBy (h : Handle) (e : Entry) : Prop :=
  ∃ sig, signText C h false tagEntry (buildCanonicalJson e) = .ok sig ∧
    e.chainSig = .copy 129 sig.1 ∧ e.chainSigKeyId = .copy 33 sig.2

/-- **The effect of an append whose row is inserted.**  The entry is the populated one,
hashed, MACed and signed over its canonical text; its row is new and comes last; the
session's head names it or is as before, and the body is stored or not. -/
structure RowDone (h : Handle) (env : Env) (call : AppendCall) (s : Bytes) (db db' : Db)
    (e : Entry) : Prop where
  core_eq : e.core = (populateEntry h env call s (nextLink C env db s)).core
  hash_eq : e.chainEntryHash = .copy 65 (C.sha256Hex (buildCanonicalJson e))
  hmac_eq : e.chainHmac = .copy 65 (C.hmacSha256Hex h.chainKey (buildCanonicalJson e))
  short : (buildCanonicalJson e).length < 2048
  signedBy : SignedBy C h e
  fresh : ∀ r ∈ db.entries.rows, r.clash (insertRow h.signEnabled db.nextRowid e) = false
  entries_eq : db'.entries.rows = db.entries.rows ++ [insertRow h.signEnabled db.nextRowid e]
  heads_cases : db'.heads = db.heads ∨ ∃ sig,
    db'.heads = db.heads.replace (headRow C h env s e.sequence e.chainEntryHash.bytes sig)
  artifacts_cases : db'.artifacts = db.artifacts ∨
    artifactStore env db call s = .ok { db with artifacts := db'.artifacts }
  milestones_eq : db'.milestones = db.milestones
  intents_eq : db'.intents = db.intents
  rowid_eq : db'.nextRowid = db.nextRowid + 1
  gate_ok : federationGate env db call = .ok ()

/-- **The effect of a successful transaction**: the head names the entry, and the body, if
one was given, is stored. -/
structure TxnDone (h : Handle) (env : Env) (call : AppendCall) (s : Bytes) (db db' : Db)
    (e : Entry) : Prop extends RowDone C h env call s db db' e where
  heads_eq : ∃ sig, signText C h false tagHead
      (headBytes env.stack s e.sequence e.chainEntryHash.bytes) = .ok sig ∧
    db'.heads = db.heads.replace (headRow C h env s e.sequence e.chainEntryHash.bytes sig)
  artifacts_eq : artifactStore env db call s = .ok { db with artifacts := db'.artifacts }

variable {C} {h : Handle} {env : Env} {db db' : Db} {e : Entry} {s : Bytes}

variable {tag msg hash : Bytes} {seq : Int} {useEpoch : Bool}

theorem signText_ok {fails : Bool} {r : Bytes × Bytes} (hs : signText C h fails tag msg = .ok r) :
    signText C h false tag msg = .ok r := by
  unfold signText at hs ⊢
  cases hseed : h.signSeed with
  | none => simpa [hseed] using hs
  | some seed =>
    cases fails with
    | false => simpa [hseed] using hs
    | true => simp [hseed] at hs

theorem failIf_ok {bad : Bool} {err : VirpError} {u : Unit} (h : failIf bad err = .ok u) :
    bad = false := by
  cases bad with
  | false => rfl
  | true => cases h

theorem sealEntry_ok {e' : Entry} (hs : sealEntry C h env e = .ok e') :
    e'.core = e.core ∧ (buildCanonicalJson e).length < 2048 ∧
    e'.chainEntryHash = .copy 65 (C.sha256Hex (buildCanonicalJson e)) ∧
    e'.chainHmac = .copy 65 (C.hmacSha256Hex h.chainKey (buildCanonicalJson e)) ∧
    ∃ sig, signText C h false tagEntry (buildCanonicalJson e) = .ok sig ∧
      e'.chainSig = .copy 129 sig.1 ∧ e'.chainSigKeyId = .copy 33 sig.2 := by
  unfold sealEntry at hs
  obtain ⟨_, hlen, hs⟩ := bind_ok.mp hs
  obtain ⟨_, -, hs⟩ := bind_ok.mp hs
  obtain ⟨sig, hsig, hs⟩ := bind_ok.mp hs
  cases hs
  have hshort : (buildCanonicalJson e).length < 2048 := by
    have := of_decide_eq_false (failIf_ok hlen)
    omega
  exact ⟨rfl, hshort, rfl, rfl, sig, signText_ok hsig, rfl, rfl⟩

theorem insertEntry_ok (hi : insertEntry h env db e = .ok db') :
    (∀ r ∈ db.entries.rows, r.clash (insertRow h.signEnabled db.nextRowid e) = false) ∧
    db'.entries.rows = db.entries.rows ++ [insertRow h.signEnabled db.nextRowid e] ∧
    db' = { db with entries := db'.entries, nextRowid := db.nextRowid + 1 } := by
  unfold insertEntry at hi
  split at hi
  · cases hi
  rename_i t ht
  cases hi
  split at ht
  · cases ht
  obtain ⟨hfresh, hrows⟩ := Table.insert_eq_some ht
  exact ⟨hfresh, hrows, rfl⟩

theorem headUpsertLocked_ok (hu : headUpsertLocked C h env db s seq hash = .ok db') :
    ∃ sig, signText C h false tagHead (headBytes env.stack s seq hash) = .ok sig ∧
      db' = { db with heads := db.heads.replace (headRow C h env s seq hash sig) } := by
  unfold headUpsertLocked at hu
  obtain ⟨_, -, hu⟩ := bind_ok.mp hu
  obtain ⟨sig, hsig, hu⟩ := bind_ok.mp hu
  obtain ⟨_, -, hu⟩ := bind_ok.mp hu
  exact ⟨sig, signText_ok hsig, (Except.ok.inj hu).symm⟩

variable {call : AppendCall}

/-- The body's store touches the artifacts only, and reads nothing else of the
database. -/
theorem artifactStore_ok (ha : artifactStore env db call s = .ok db') :
    db' = { db with artifacts := db'.artifacts } ∧ ∀ db₀ : Db, db₀.artifacts = db.artifacts →
      artifactStore env db₀ call s = .ok { db₀ with artifacts := db'.artifacts } := by
  unfold artifactStore at ha ⊢
  cases hb : cstr (call.artifactContent.getD []) with
  | nil =>
    rw [hb] at ha
    cases ha
    exact ⟨rfl, fun db₀ h₀ => by rw [← h₀]⟩
  | cons b body =>
    rw [hb] at ha
    simp only at ha ⊢
    split at ha
    · cases ha
    rename_i hf
    cases ha
    exact ⟨rfl, fun db₀ h₀ => by rw [if_neg hf, h₀]⟩

/-- The entry that is inserted, and its row alone. -/
theorem rowDone_of_insert {db₁ : Db} (hp : prepareEntry C h env call s useEpoch db = .ok e)
    (hins : insertEntry h env db e = .ok db₁) : RowDone C h env call s db db₁ e := by
  unfold prepareEntry at hp
  obtain ⟨_, -, hp⟩ := bind_ok.mp hp
  obtain ⟨_, hgate, hseal⟩ := bind_ok.mp hp
  obtain ⟨hcore, hshort, hhash, hhmac, hsig⟩ := sealEntry_ok hseal
  have hcanon : buildCanonicalJson (populateEntry h env call s (nextLink C env db s)) =
      buildCanonicalJson e := by
    rw [← buildCanonicalJson_core, ← hcore, buildCanonicalJson_core]
  rw [hcanon] at hshort hhash hhmac hsig
  obtain ⟨hfresh, hrows, hdb₁⟩ := insertEntry_ok hins
  exact
    { core_eq := hcore
      hash_eq := hhash
      hmac_eq := hhmac
      short := hshort
      signedBy := hsig
      fresh := hfresh
      entries_eq := hrows
      heads_cases := .inl (by rw [hdb₁])
      artifacts_cases := .inl (by rw [hdb₁])
      milestones_eq := by rw [hdb₁]
      intents_eq := by rw [hdb₁]
      rowid_eq := by rw [hdb₁]
      gate_ok := hgate }

/-- The head may follow the row. -/
theorem RowDone.upsert {db₁ db₂ : Db} (D : RowDone C h env call s db db₁ e)
    (hheads : db₁.heads = db.heads)
    (hu : headUpsertLocked C h env db₁ s e.sequence e.chainEntryHash.bytes = .ok db₂) :
    RowDone C h env call s db db₂ e ∧ db₂.artifacts = db₁.artifacts ∧
      ∃ sig, signText C h false tagHead
          (headBytes env.stack s e.sequence e.chainEntryHash.bytes) = .ok sig ∧
        db₂.heads = db.heads.replace (headRow C h env s e.sequence e.chainEntryHash.bytes sig) := by
  obtain ⟨sig, hsig, rfl⟩ := headUpsertLocked_ok hu
  have hreplace : db₁.heads.replace (headRow C h env s e.sequence e.chainEntryHash.bytes sig) =
      db.heads.replace (headRow C h env s e.sequence e.chainEntryHash.bytes sig) := by rw [hheads]
  exact ⟨{ D with heads_cases := .inr ⟨sig, hreplace⟩ }, rfl, sig, hsig, hreplace⟩

/-- The body may follow the head. -/
theorem RowDone.store {db₂ db₃ : Db} (D : RowDone C h env call s db db₂ e)
    (harts : db₂.artifacts = db.artifacts) (ha : artifactStore env db₂ call s = .ok db₃) :
    RowDone C h env call s db db₃ e ∧ db₃.heads = db₂.heads ∧
      artifactStore env db call s = .ok { db with artifacts := db₃.artifacts } := by
  obtain ⟨hdb₃, hart⟩ := artifactStore_ok ha
  have hstored := hart db harts.symm
  rw [hdb₃]
  exact ⟨{ D with artifacts_cases := .inr hstored }, rfl, hstored⟩

/-- **What a successful transaction did.** -/
theorem appendTxn_ok (ht : appendTxn C h env call s useEpoch db = .ok (db', e)) :
    TxnDone C h env call s db db' e := by
  unfold appendTxn at ht
  obtain ⟨e₁, hprep, ht⟩ := bind_ok.mp ht
  obtain ⟨db₁, hins, ht⟩ := bind_ok.mp ht
  obtain ⟨db₂, hhead, ht⟩ := bind_ok.mp ht
  obtain ⟨db₃, hart, ht⟩ := bind_ok.mp ht
  obtain ⟨rfl, rfl⟩ := Prod.mk.inj (Except.ok.inj ht)
  have hhead' : headUpsertLocked C h env db₁ s e₁.sequence e₁.chainEntryHash.bytes = .ok db₂ := by
    cases hu : headUpsertLocked C h env db₁ s e₁.sequence e₁.chainEntryHash.bytes with
    | ok d => simpa [hu, Except.mapError] using hhead
    | error err => simp [hu, Except.mapError] at hhead
  obtain ⟨-, -, hdb₁⟩ := insertEntry_ok hins
  obtain ⟨D₂, harts, hheads⟩ := (rowDone_of_insert hprep hins).upsert (by rw [hdb₁]) hhead'
  obtain ⟨D₃, hsame, hstored⟩ := D₂.store (by rw [harts, hdb₁]) hart
  exact { D₃ with heads_eq := by rwa [hsame], artifacts_eq := hstored }

/-- **What the writes of a lost transaction did**: nothing, or the row is in the database. -/
theorem appendLost_cases (h : Handle) (env : Env) (call : AppendCall) (s : Bytes) (useEpoch : Bool)
    (db : Db) : (∃ err, appendLost C h env call s useEpoch db = (db, none, err)) ∨
      ∃ db' e err, appendLost C h env call s useEpoch db = (db', some e, err) ∧
        RowDone C h env call s db db' e := by
  unfold appendLost
  cases hprep : prepareEntry C h env call s useEpoch db with
  | error err => exact .inl ⟨err, rfl⟩
  | ok e =>
    cases hins : insertEntry h env db e with
    | error err => exact .inl ⟨err, by simp [hins]⟩
    | ok db₁ =>
      have D₁ := rowDone_of_insert hprep hins
      obtain ⟨-, -, hdb₁⟩ := insertEntry_ok hins
      refine .inr ?_
      cases hu : headUpsertLocked C h env db₁ s e.sequence e.chainEntryHash.bytes with
      | error err => exact ⟨db₁, e, .chainDb, by simp [hins, hu], D₁⟩
      | ok db₂ =>
        obtain ⟨D₂, harts, -⟩ := D₁.upsert (by rw [hdb₁]) hu
        cases ha : artifactStore env db₂ call s with
        | error err => exact ⟨db₂, e, err, by simp [hins, hu, ha], D₂⟩
        | ok db₃ =>
          obtain ⟨D₃, -⟩ := D₂.store (by rw [harts, hdb₁]) ha
          exact ⟨db₃, e, .chainDb, by simp [hins, hu, ha], D₃⟩

/-- Signing a text of ordinary length succeeds. -/
theorem signText_succeeds (htag : 0 < tag.length ∧ tag.length < 64)
    (hmsg : 0 < msg.length ∧ msg.length < 4032) : ∃ sig, signText C h false tag msg = .ok sig := by
  unfold signText
  cases h.signSeed with
  | none => exact ⟨_, rfl⟩
  | some seed =>
    have hinput : chainsignInput tag msg = some (tag ++ 0 :: msg) := by
      unfold chainsignInput
      simp only
      rw [if_neg (by omega), if_neg (by omega)]
    simp [chainsignSign, hinput]

theorem sealEntry_succeeds (hf : env.Fine) (hlen : (buildCanonicalJson e).length < 2048) :
    ∃ e', sealEntry C h env e = .ok e' := by
  have hpos : 0 < (buildCanonicalJson e).length := by
    rw [buildCanonicalJson, List.length_append]
    exact Nat.add_pos_left (by decide) _
  obtain ⟨sig, hsig⟩ := signText_succeeds (C := C) (h := h) (show 0 < tagEntry.length ∧ _ by decide)
    ⟨hpos, by omega⟩
  unfold sealEntry
  simp only [failIf, decide_eq_true_eq, if_neg (Nat.not_le_of_lt hlen), hf.1, Bool.false_eq_true,
    if_false, hsig]
  exact ⟨_, rfl⟩

theorem headUpsertLocked_succeeds (hf : env.Fine) (db : Db)
    (hlen : 0 < (headBytes env.stack s seq hash).length ∧
      (headBytes env.stack s seq hash).length < 4032) :
    ∃ db', headUpsertLocked C h env db s seq hash = .ok db' := by
  obtain ⟨sig, hsig⟩ := signText_succeeds (C := C) (h := h) (show 0 < tagHead.length ∧ _ by decide) hlen
  unfold headUpsertLocked
  simp only [failIf, hf.1, Bool.false_eq_true, if_false, hsig]
  exact ⟨_, rfl⟩

theorem artifactStore_succeeds (hf : env.Fine) (db : Db) (call : AppendCall) (s : Bytes) :
    ∃ db', artifactStore env db call s = .ok db' := by
  unfold artifactStore
  split
  · exact ⟨_, rfl⟩
  · rw [hf.1]
    exact ⟨_, rfl⟩

/-- **When a transaction succeeds**: nothing fails by itself, no gate refuses, the
texts fit their buffers, and the new row clashes with none. -/
theorem appendTxn_succeeds (hf : env.Fine)
    (hepoch : useEpoch = true → destinationTaken C h db s = false)
    (hgate : typeIsFederation call.artifactType = true →
      idConflict db call.artifactId call.artifactHash = false)
    (hlen : (buildCanonicalJson (populateEntry h env call s (nextLink C env db s))).length < 2048)
    (hhead : ∀ hash : Field 65, 0 < (headBytes env.stack s (nextLink C env db s).1 hash.bytes).length ∧
      (headBytes env.stack s (nextLink C env db s).1 hash.bytes).length < 4032)
    (hfresh : ∀ e : Entry, e.core = (populateEntry h env call s (nextLink C env db s)).core →
      e.chainEntryHash = .copy 65 (C.sha256Hex (buildCanonicalJson e)) →
      ∀ r ∈ db.entries.rows, r.clash (insertRow h.signEnabled db.nextRowid e) = false) :
    ∃ p, appendTxn C h env call s useEpoch db = .ok p := by
  obtain ⟨e, he⟩ := sealEntry_succeeds (C := C) (h := h) hf hlen
  obtain ⟨hcore, -, hhash, -, -⟩ := sealEntry_ok he
  have hcanon : buildCanonicalJson (populateEntry h env call s (nextLink C env db s)) =
      buildCanonicalJson e := by
    rw [← buildCanonicalJson_core, ← hcore, buildCanonicalJson_core]
  rw [hcanon] at hhash
  obtain ⟨t, ht, -⟩ := Table.exists_insert (hfresh e hcore hhash)
  have hins : insertEntry h env db e =
      .ok { db with entries := t, nextRowid := db.nextRowid + 1 } := by
    simp only [insertEntry, hf.1, Bool.false_eq_true, if_false, ht]
  have hseq : e.sequence = (nextLink C env db s).1 := congrArg Entry.sequence hcore
  obtain ⟨db₂, hdb₂⟩ := headUpsertLocked_succeeds (C := C) (h := h) hf
    { db with entries := t, nextRowid := db.nextRowid + 1 } (hseq ▸ hhead e.chainEntryHash)
  obtain ⟨db₃, hdb₃⟩ := artifactStore_succeeds hf db₂ call s
  have hepoch' : nativeEpochDestination C h env db s useEpoch = .ok () := by
    unfold nativeEpochDestination
    cases useEpoch with
    | false => rfl
    | true => simp [hf.1, hepoch rfl]
  have hgate' : federationGate env db call = .ok () := by
    unfold federationGate
    split
    · rename_i ht
      simp [hf.1, hgate ht]
    · rfl
  refine ⟨(db₃, e), ?_⟩
  unfold appendTxn prepareEntry
  rw [hepoch', hgate']
  simp only [bind, Except.bind, he, hins, hdb₂, Except.mapError, hdb₃]

end Virp
