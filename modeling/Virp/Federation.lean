import Virp.ChainCompleteness

/-! # Federation artifact ids

The initiator of a federated request chooses the artifact id, and may send the same
request twice.  The append therefore looks for the id first, in the transaction that
inserts the entry: other bytes under it are refused, the same bytes are not.

The query binds the id as it was submitted, while the row keeps its first 127 bytes.
A longer id never finds its own row, so nothing is ever refused under it.
-/
namespace Virp

open List

variable {C : Crypto}

/-- An append of the run, with these arguments, landed: its row was committed, as it is by
every append that returns OK. -/
def Landed (C : Crypto) (ops : List ChainOp) (call : AppendCall) : Prop :=
  ∃ before h env after e, ops = before ++ ChainOp.append h env call :: after ∧
    (chainAppend C h env (run C before).store call).landed = some e

/-- A federation append submits an id its column can hold. -/
def ChainOp.FederationIdFits : ChainOp → Prop
  | .append _ _ call => typeIsFederation call.artifactType = true → call.artifactId.length ≤ 127
  | _ => True

/-- Every append is of a federation type. -/
def ChainOp.FederationOnly : ChainOp → Prop
  | .append _ _ call => typeIsFederation call.artifactType = true
  | _ => True

theorem run_concat (ops : List ChainOp) (op : ChainOp) :
    run C (ops ++ [op]) = runStep C (run C ops) op := by
  simp [run]

variable {ops : List ChainOp} {call : AppendCall}

theorem landed_concat {op : ChainOp} :
    Landed C (ops ++ [op]) call ↔ Landed C ops call ∨ ∃ h env e, op = .append h env call ∧
      (chainAppend C h env (run C ops).store call).landed = some e := by
  constructor
  · rintro ⟨before, h, env, after, e, heq, hok⟩
    rcases eq_nil_or_concat after with rfl | ⟨after, last, rfl⟩
    · obtain ⟨rfl, rfl⟩ : ops = before ∧ op = .append h env call := by
        simpa using append_inj' heq rfl
      exact .inr ⟨h, env, e, rfl, hok⟩
    · rw [concat_eq_append, ← cons_append, ← append_assoc] at heq
      obtain ⟨rfl, -⟩ := append_inj' heq rfl
      exact .inl ⟨before, h, env, after, e, rfl, hok⟩
  · rintro (⟨before, h, env, after, e, rfl, hok⟩ | ⟨h, env, e, rfl, hok⟩)
    · exact ⟨before, h, env, after ++ [op], e, by simp, hok⟩
    · exact ⟨ops, h, env, [], e, rfl, hok⟩

variable {env : Env} {s : Bytes} {db : Db} {row : EntryRow} {a : AppendCall}

/-- The row an append inserts. -/
theorem RowDone.row_columns {h : Handle} {db' : Db} {e : Entry}
    (D : RowDone C h env call s db db' e) (hstr : appendStringsOk s call = true) (signed : Bool)
    (n : Nat) : (insertRow signed n e).artifactId = snprintfS 128 call.artifactId ∧
      (insertRow signed n e).artifactHash = call.artifactHash := by
  have hid : e.artifactId = .copy 128 call.artifactId := congrArg Entry.artifactId D.core_eq
  have hhash : e.artifactHash = .copy 65 call.artifactHash := congrArg Entry.artifactHash D.core_eq
  simp only [appendStringsOk, Bool.and_eq_true] at hstr
  have h0 : 0 ∉ call.artifactHash := fun hm => (plain_of_artifactHashOk hstr.2 0 hm).2 rfl
  have hlen : call.artifactHash.length < 65 := by
    have := hstr.2
    simp only [artifactHashOk, Bool.and_eq_true, beq_iff_eq] at this
    omega
  simp only [insertRow, hid, hhash]
  exact ⟨rfl, snprintfS_eq_self h0 hlen⟩

/-- An id that fits is stored as submitted. -/
theorem stored_id (hstr : appendStringsOk s call = true) (hfit : call.artifactId.length ≤ 127) :
    snprintfS 128 call.artifactId = call.artifactId := by
  simp only [appendStringsOk, Bool.and_eq_true] at hstr
  exact snprintfS_eq_self (fun hm => (plain_of_canonicalStringOk hstr.1.2 0 hm).2 rfl) (by omega)

/-- The rows after an operation: those before it, and one more if it is an append that
landed. -/
theorem rows_step (r : RunState) (op : ChainOp) :
    (runStep C r op).store.committed.entries.rows = r.store.committed.entries.rows ∧
      (∀ h env call, op = .append h env call → (chainAppend C h env r.store call).landed = none) ∨
    ∃ h env call db' e, op = .append h env call ∧ EntryLands C h env r.store call db' e ∧
      (runStep C r op).store.committed.entries.rows = r.store.committed.entries.rows ++
        [insertRow h.signEnabled r.store.committed.nextRowid e] := by
  cases op with
  | append h env call =>
    rcases chainAppend_cases C h env r.store call with ⟨hnone, hstore, -⟩ | ⟨db', e, hl⟩
    · refine .inl ⟨congrArg (fun db => db.entries.rows) hstore, ?_⟩
      rintro _ _ _ ⟨⟩
      exact hnone
    · refine .inr ⟨h, env, call, db', e, rfl, hl, ?_⟩
      simp only [runStep, hl.store_eq]
      rw [afterCommit_eq]
      exact hl.row.entries_eq
  | storeIntent h fails intentId intentHash =>
    refine .inl ⟨?_, fun _ _ _ hop => by cases hop⟩
    simp only [runStep, chainIntentStoreLocked]
    split
    · rfl
    · split <;> rfl
  | reopen => exact .inl ⟨rfl, fun _ _ _ hop => by cases hop⟩

/-- Every row is that of an append that landed. -/
theorem landed_of_row (hrow : row ∈ (run C ops).store.committed.entries.rows) :
    ∃ s call, Landed C ops call ∧ appendStringsOk s call = true ∧
      row.artifactId = snprintfS 128 call.artifactId ∧ row.artifactHash = call.artifactHash := by
  induction ops using reverseRecOn with
  | nil => cases hrow
  | append_singleton ops op ih =>
    rw [run_concat] at hrow
    have old (hold : row ∈ (run C ops).store.committed.entries.rows) :
        ∃ s call, Landed C (ops ++ [op]) call ∧ appendStringsOk s call = true ∧
          row.artifactId = snprintfS 128 call.artifactId ∧ row.artifactHash = call.artifactHash := by
      obtain ⟨s, call, hl, hrest⟩ := ih hold
      exact ⟨s, call, landed_concat.mpr (.inl hl), hrest⟩
    rcases rows_step (run C ops) op with ⟨hrows, -⟩ | ⟨h, env, call, db', e, rfl, hl, hrows⟩
    · exact old (hrows ▸ hrow)
    rw [hrows] at hrow
    rcases mem_append.mp hrow with hold | hnew
    · exact old hold
    · rw [mem_singleton.mp hnew]
      exact ⟨_, call, landed_concat.mpr (.inr ⟨h, env, e, rfl, hl.landed⟩), hl.strings,
        hl.row.row_columns hl.strings _ _⟩

/-- An append that landed left its row. -/
theorem row_of_landed (hl : Landed C ops call) (hfit : call.artifactId.length ≤ 127) :
    ∃ row ∈ (run C ops).store.committed.entries.rows,
      row.artifactId = call.artifactId ∧ row.artifactHash = call.artifactHash := by
  induction ops using reverseRecOn with
  | nil =>
    obtain ⟨before, h, env, after, e, heq, -⟩ := hl
    simp at heq
  | append_singleton ops op ih =>
    rw [run_concat]
    rcases rows_step (run C ops) op with ⟨hrows, hnone⟩ | ⟨h, env, c, db', e, rfl, hentry, hrows⟩
    · rw [hrows]
      rcases landed_concat.mp hl with hl | ⟨h, env, e, hop, hok⟩
      · exact ih hl
      · exact absurd (hnone h env call hop) (by simp [hok])
    · rw [hrows]
      rcases landed_concat.mp hl with hl | ⟨_, _, _, hop, -⟩
      · obtain ⟨row, hrow, heq⟩ := ih hl
        exact ⟨row, mem_append_left _ hrow, heq⟩
      · cases hop
        obtain ⟨hid, hhash⟩ := hentry.row.row_columns hentry.strings h.signEnabled
          (run C ops).store.committed.nextRowid
        exact ⟨_, mem_append_right _ mem_cons_self, hid.trans (stored_id hentry.strings hfit), hhash⟩

/-! ## The gate over a run -/

/-- What the gate lets through: every row under the submitted id has the submitted
hash. -/
theorem hash_of_federationGate (h : federationGate env db call = .ok ())
    (hfed : typeIsFederation call.artifactType = true) (hrow : row ∈ db.entries.rows)
    (hid : row.artifactId = call.artifactId) : row.artifactHash = call.artifactHash := by
  simp only [federationGate, hfed, if_true] at h
  split at h
  · cases h
  split at h
  · cases h
  rename_i hconf
  have := (any_eq_false.mp (Bool.of_not_eq_true hconf)) row hrow
  simpa [hid] using this

/-- **One id, one hash**, over federation appends whose ids fit. -/
theorem federation_hash_unique (hfit : ∀ op ∈ ops, op.FederationIdFits) {b : AppendCall}
    (ha : Landed C ops a) (hb : Landed C ops b) (hfa : typeIsFederation a.artifactType = true)
    (hfb : typeIsFederation b.artifactType = true) (hid : a.artifactId = b.artifactId) :
    a.artifactHash = b.artifactHash := by
  induction ops using reverseRecOn with
  | nil =>
    obtain ⟨before, h, env, after, e, heq, -⟩ := ha
    simp at heq
  | append_singleton ops op ih =>
    have ih' := ih fun op hop => hfit op (mem_append_left _ hop)
    -- an earlier append against the last one, which went through the gate
    have gate {c d : AppendCall} (hc : Landed C ops c) {h : Handle} {env : Env} {e : Entry}
        (hop : op = .append h env d)
        (hok : (chainAppend C h env (run C ops).store d).landed = some e)
        (hfc : typeIsFederation c.artifactType = true) (hfd : typeIsFederation d.artifactType = true)
        (hcd : c.artifactId = d.artifactId) : c.artifactHash = d.artifactHash := by
      have hfits := hfit op (mem_append_right _ mem_cons_self)
      rw [hop] at hfits
      have hshort : d.artifactId.length ≤ 127 := hfits hfd
      obtain ⟨row, hrow, hrid, hrhash⟩ := row_of_landed hc (hcd ▸ hshort)
      rcases chainAppend_cases C h env (run C ops).store d with ⟨hnone, -⟩ | ⟨db', e', hl⟩
      · exact absurd hnone (by simp [hok])
      exact hrhash.symm.trans (hash_of_federationGate hl.row.gate_ok hfd hrow (hrid.trans hcd))
    rcases landed_concat.mp ha with ha | ⟨h, env, e, hopa, hoka⟩ <;>
      rcases landed_concat.mp hb with hb | ⟨h', env', e', hopb, hokb⟩
    · exact ih' ha hb
    · exact gate ha hopb hokb hfa hfb hid
    · exact (gate hb hopa hoka hfb hfa hid.symm).symm
    · cases hopa.symm.trans hopb
      rfl

/-- An id that landed with a hash conflicts with nothing under that hash. -/
theorem no_conflict_of_landed (hfit : ∀ op ∈ ops, op.FederationIdFits)
    (honly : ∀ op ∈ ops, op.FederationOnly) (ha : Landed C ops a) :
    idConflict (run C ops).store.committed a.artifactId a.artifactHash = false := by
  have fed {c : AppendCall} (hc : Landed C ops c) :
      typeIsFederation c.artifactType = true ∧ c.artifactId.length ≤ 127 := by
    obtain ⟨before, h, env, after, e, rfl, -⟩ := hc
    have hmem : ChainOp.append h env c ∈ before ++ ChainOp.append h env c :: after := by simp
    exact ⟨honly _ hmem, hfit _ hmem (honly _ hmem)⟩
  refine any_eq_false.mpr fun row hrow => ?_
  obtain ⟨s, c, hc, hstr, hid, hhash⟩ := landed_of_row hrow
  rw [hid, hhash, stored_id hstr (fed hc).2]
  simp only [Bool.and_eq_true, beq_iff_eq, bne_iff_ne, ne_eq, not_and, not_not]
  exact fun hca => federation_hash_unique hfit hc ha (fed hc).1 (fed ha).1 hca

/-- **Federation ids over any run** in which they fit their column.  No two federation
appends land under one id with different hashes; in a run of federation appends a
resubmission of what landed passes the gate, and is accepted unless something else
fails. -/
theorem federation_ids_of_run {K : Bytes} (ops : List ChainOp)
    (hfit : ∀ op ∈ ops, op.FederationIdFits) :
    (∀ a b, Landed C ops a → Landed C ops b → typeIsFederation a.artifactType = true →
      typeIsFederation b.artifactType = true → a.artifactId = b.artifactId →
      a.artifactHash = b.artifactHash) ∧
    ((∀ op ∈ ops, op.FederationOnly) → ∀ a, Landed C ops a → ∀ b,
      b.artifactId = a.artifactId → b.artifactHash = a.artifactHash →
      (∀ env : Env, env.fails .conflictQuery = false →
        federationGate env (run C ops).store.committed b = .ok ()) ∧
      ∀ (h : Handle) (env : Env) (s : Bytes) (useEpoch : Bool), (∀ op ∈ ops, op.UsesKey K) →
        h.readOnly = false → env.Fine → (run C ops).store.txn = none →
        epochSession h b.sessionId = .ok (s, useEpoch) → appendStringsOk s b = true →
        (useEpoch = true → destinationTaken C h (run C ops).store.committed s = false) →
        Unaliased (run C ops).log s → (run C ops).log.length < 2 ^ 63 →
        Set.InjOn C.sha256 (insert
          (buildCanonicalJson (populateEntry h env b s
            (nextLink C env (run C ops).store.committed s))) (canonicalTexts (run C ops).log)) →
        ∃ e, (chainAppendLocked C h env (run C ops).store b).2 = .ok e) := by
  refine ⟨fun a b ha hb => federation_hash_unique hfit ha hb, fun honly a ha b hid hhash => ?_⟩
  have hconf : idConflict (run C ops).store.committed b.artifactId b.artifactHash = false := by
    rw [hid, hhash]
    exact no_conflict_of_landed hfit honly ha
  refine ⟨fun env hq => ?_, ?_⟩
  · simp [federationGate, hq, hconf]
  · intro h env s useEpoch hkey hw hf htxn hdest hstr hepoch hu hlen hinj
    obtain ⟨e, he, -⟩ := (honest_run hkey).append_succeeds hu hlen htxn hw hf hdest hstr hepoch
      (fun _ => hconf) hinj
    exact ⟨e, he⟩

namespace FederationSample

/-- A federated request under the given id and hash, kept as a commitment only. -/
def request (id hash : Bytes) : AppendCall where
  sessionId := text "fed"
  artifactType := text "fed_request"
  artifactId := id
  artifactHash := hash
  artifactContent := none

/-- One byte more than its column holds. -/
def longId : Bytes := List.replicate 128 0x61

def firstHash : Bytes := text "7692c3ad3540bb803c020b3aee66cd8887123234ea0c6e7143c0add73ff431ed"

def secondHash : Bytes := text "3fc4ccfe745870e2c0d99f71f30ff0656c8dedd41cc1d7d3d376b0dbe685e2f3"

def genesis : Bytes := text "f2f2250a93bd0c176157bd3adfd8aeba2a54d7616fedd0fb7fd6fb1d2ed8f1b9"

/-- The canonical text of an entry of the session. -/
def entryText (call : AppendCall) (seq : Int) (prev : Bytes) : Bytes :=
  buildCanonicalJson (populateEntry Sample.handle Sample.env call (text "fed") (seq, prev))

def firstLong : Bytes := text "a46f3e15e7655d95acaab888688e886c993f5511a0fa1e3a22a17925acd79145"

def firstShort : Bytes := text "c25db0f2bfe8a15317ff712cc688be54177f9bf5cf919db42ec9e955b5e42ddb"

/-- SHA-256 on the texts of the session's entries, under the long id and under `r1`. -/
def crypto : Crypto := .known
  [(genesisText (text "fed"), genesis),
   (entryText (request longId firstHash) 0 genesis, firstLong),
   (entryText (request longId secondHash) 1 firstLong,
    text "e3e22a1c27133edba680bac2ae94881b789dd3b8a29f84a71f8d3174acfe6819"),
   (entryText (request (text "r1") firstHash) 0 genesis, firstShort),
   (entryText (request (text "r1") firstHash) 1 firstShort,
    text "acdc64d1156ff676dcf4bdc2065842d40feae62dbb423a4a74fde1cbbad153a2")]
  [] [] []

def append (id hash : Bytes) : ChainOp := .append Sample.handle Sample.env (request id hash)

end FederationSample

open FederationSample in
/-- Two requests under one id of 128 bytes, with different hashes, both land. -/
theorem long_federation_id_lands_twice :
    let ops := [append longId firstHash, append longId secondHash]
    Landed crypto ops (request longId firstHash) ∧ Landed crypto ops (request longId secondHash) ∧
      typeIsFederation (request longId firstHash).artifactType = true ∧ firstHash ≠ secondHash ∧
      longId.length = 128 := by
  have hfirst : (chainAppend crypto Sample.handle Sample.env (run crypto []).store
      (request longId firstHash)).landed.isSome = true := by decide +kernel
  have hsecond : (chainAppend crypto Sample.handle Sample.env
      (run crypto [append longId firstHash]).store (request longId secondHash)).landed.isSome =
        true := by
    decide +kernel
  obtain ⟨e, he⟩ := Option.isSome_iff_exists.mp hfirst
  obtain ⟨e', he'⟩ := Option.isSome_iff_exists.mp hsecond
  exact ⟨⟨[], _, _, _, e, rfl, he⟩, ⟨[append longId firstHash], _, _, [], e', rfl, he'⟩,
    by decide +kernel, by decide +kernel, length_replicate⟩

open FederationSample in
/-- Under a short id the second hash is refused, and the first one accepted again. -/
theorem federation_ids_of_run_short :
    let ops := [append (text "r1") firstHash, append (text "r1") secondHash]
    (chainAppendLocked crypto Sample.handle Sample.env (run crypto [append (text "r1") firstHash]).store
      (request (text "r1") secondHash)).2 = .error .duplicateMismatch ∧
    (chainAppendLocked crypto Sample.handle Sample.env (run crypto ops).store
      (request (text "r1") firstHash)).2.isOk = true ∧
    ∀ a b, Landed crypto ops a → Landed crypto ops b → typeIsFederation a.artifactType = true →
      typeIsFederation b.artifactType = true → a.artifactId = b.artifactId →
      a.artifactHash = b.artifactHash :=
  ⟨by decide +kernel, by decide +kernel,
    (federation_ids_of_run (K := []) [append (text "r1") firstHash, append (text "r1") secondHash]
      (forall_mem_cons.mpr ⟨fun _ => by decide +kernel,
        forall_mem_singleton.mpr fun _ => by decide +kernel⟩)).1⟩

end Virp
