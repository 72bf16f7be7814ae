import Virp.ChainCompleteness

/-! # After a failed append

An append that fails between `BEGIN` and `COMMIT` rolls back, but for two slips.  A `COMMIT` that
fails while the transaction stays open is reported and left as it is: the handle keeps the
transaction, in which the rows of the failed append stand; the next `BEGIN` is refused, and
whoever verifies through this handle reads them.  And a read of the last entry that fails is taken
for a session without entries, also when SQLite has rolled the transaction back with it: the row,
and what follows it, is then committed by itself, and only the `COMMIT` at the end fails.
-/
namespace Virp

variable {C : Crypto}

/-- The text the append seals. -/
def nextText (C : Crypto) (h : Handle) (env : Env) (call : AppendCall) (s : Bytes) (db : Db) : Bytes :=
  buildCanonicalJson (populateEntry h env call s (nextLink C env db s))

/-- The row of the append goes in: no gate refuses it, its text fits the buffer, no step up to the
`INSERT` fails by itself, and no row has its number or its hash. -/
structure RowGoesIn (C : Crypto) (h : Handle) (env : Env) (call : AppendCall) (s : Bytes)
    (useEpoch : Bool) (db : Db) : Prop where
  epoch : useEpoch = true → env.fails .epochQuery = false ∧ destinationTaken C h db s = false
  federation : typeIsFederation call.artifactType = true → env.fails .conflictQuery = false ∧
    idConflict db call.artifactId call.artifactHash = false
  short : (nextText C h env call s db).length < 2048
  hmac : env.fails .entryHmac = false
  sign : h.signSeed ≠ none → env.fails .entrySign = false
  insert : env.fails .insert = false
  number : ∀ r ∈ db.entries.rows, r.sessionId = snprintfS 64 s →
    r.sequence ≠ (nextLink C env db s).1
  hash : ∀ r ∈ db.entries.rows, r.chainEntryHash ≠ C.sha256Hex (nextText C h env call s db)

/-- So do its head and its body, if it has one. -/
structure RestGoesIn (C : Crypto) (h : Handle) (env : Env) (call : AppendCall) (s : Bytes)
    (db : Db) : Prop where
  headHmac : env.fails .headHmac = false
  headSign : h.signSeed ≠ none → env.fails .headSign = false ∧
    (chainsignInput tagHead (headBytes env.stack s (nextLink C env db s).1
      (C.sha256Hex (nextText C h env call s db)))).isSome = true
  headUpsert : env.fails .headUpsert = false
  body : cstr (call.artifactContent.getD []) ≠ [] → env.fails .artifactStore = false

/-- The append leaves a trace although it fails: its row goes in, and the transaction is lost to
the read of the last entry, or stays open at the `COMMIT`. -/
def LeavesTrace (C : Crypto) (h : Handle) (env : Env) (st : Store) (call : AppendCall) : Prop :=
  h.readOnly = false ∧ env.fails .begin = false ∧ st.txn = none ∧
    ∃ s useEpoch, epochSession h call.sessionId = .ok (s, useEpoch) ∧
      appendStringsOk s call = true ∧ RowGoesIn C h env call s useEpoch st.committed ∧
      (env.fails .getLastRolledBack = true ∨
        RestGoesIn C h env call s st.committed ∧ env.commit = .failedOpen)

/-- The operation is an append that leaves a trace although it fails. -/
def ChainOp.LeavesTrace (C : Crypto) (st : Store) : ChainOp → Prop
  | .append h env call => Virp.LeavesTrace C h env st call
  | _ => False

/-- The store is as if the call had not happened: nothing new is committed, no transaction is
open, and appends and verifications go as they would have gone before. -/
structure AsBefore (C : Crypto) (st st' : Store) : Prop where
  committed : st'.committed = st.committed
  closed : st'.txn = none
  append : ∀ h env call, chainAppendLocked C h env st' call = chainAppendLocked C h env st call
  verifySession : ∀ parse v env s, chainVerifySessionLocked C parse v env st'.view s =
    chainVerifySessionLocked C parse v env st.view s
  verifyRange : ∀ parse v env s lo hi, chainVerifyLocked C parse v env st'.view s lo hi =
    chainVerifyLocked C parse v env st.view s lo hi

/-! ## When the steps succeed -/

section
variable {h : Handle} {env : Env} {call : AppendCall} {s : Bytes} {useEpoch : Bool} {db : Db}
  {e : Entry}

theorem failIf_eq_ok_iff {bad : Bool} {err : VirpError} {u : Unit} :
    failIf bad err = .ok u ↔ bad = false := by
  cases bad <;> simp [failIf]

theorem signText_ok_iff {fails : Bool} {tag msg : Bytes} :
    (∃ sig, signText C h fails tag msg = .ok sig) ↔
      (h.signSeed ≠ none → fails = false ∧ (chainsignInput tag msg).isSome = true) := by
  unfold signText chainsignSign
  cases h.signSeed with
  | none => simp
  | some seed =>
    cases fails with
    | true => simp
    | false => cases chainsignInput tag msg <;> simp

/-- The text of an entry is never too long to be signed. -/
theorem chainsignInput_nextText (hlen : (buildCanonicalJson e).length < 2048) :
    (chainsignInput tagEntry (buildCanonicalJson e)).isSome = true := by
  have hpos : 0 < (buildCanonicalJson e).length := by
    rw [buildCanonicalJson, List.length_append]
    exact Nat.add_pos_left (by decide) _
  have htag : tagEntry.length = 23 := by decide +kernel
  unfold chainsignInput
  simp only
  rw [if_neg (by omega), if_neg (by omega)]
  rfl

theorem sealEntry_ok_iff : (∃ e', sealEntry C h env e = .ok e') ↔
    (buildCanonicalJson e).length < 2048 ∧ env.fails .entryHmac = false ∧
      (h.signSeed ≠ none → env.fails .entrySign = false) := by
  unfold sealEntry
  simp only [bind_ok, failIf_eq_ok_iff, decide_eq_false_iff_not, Nat.not_le]
  constructor
  · rintro ⟨e', _, hlen, _, hhmac, sig, hsig, -⟩
    exact ⟨hlen, hhmac, fun hseed => (signText_ok_iff.mp ⟨sig, hsig⟩ hseed).1⟩
  · rintro ⟨hlen, hhmac, hsign⟩
    obtain ⟨sig, hsig⟩ := (signText_ok_iff (C := C)).mpr fun hseed =>
      ⟨hsign hseed, chainsignInput_nextText hlen⟩
    exact ⟨_, (), hlen, (), hhmac, sig, hsig, rfl⟩

theorem insertEntry_ok_iff : (∃ db', insertEntry h env db e = .ok db') ↔
    env.fails .insert = false ∧
      ∀ r ∈ db.entries.rows, r.clash (insertRow h.signEnabled db.nextRowid e) = false := by
  constructor
  · rintro ⟨db', hi⟩
    refine ⟨?_, (insertEntry_ok hi).1⟩
    by_contra hf
    simp [insertEntry, Bool.eq_true_of_not_eq_false hf] at hi
  · rintro ⟨hf, hfresh⟩
    obtain ⟨t, ht, -⟩ := Table.exists_insert hfresh
    exact ⟨_, by simp only [insertEntry, hf, Bool.false_eq_true, if_false, ht]; rfl⟩

theorem nativeEpochDestination_ok_iff : nativeEpochDestination C h env db s useEpoch = .ok () ↔
    (useEpoch = true → env.fails .epochQuery = false ∧ destinationTaken C h db s = false) := by
  unfold nativeEpochDestination
  cases useEpoch <;> cases env.fails .epochQuery <;> cases destinationTaken C h db s <;> simp

theorem federationGate_ok_iff : federationGate env db call = .ok () ↔
    (typeIsFederation call.artifactType = true → env.fails .conflictQuery = false ∧
      idConflict db call.artifactId call.artifactHash = false) := by
  unfold federationGate
  cases typeIsFederation call.artifactType <;> cases env.fails .conflictQuery <;>
    cases idConflict db call.artifactId call.artifactHash <;> simp

/-- The row of a sealed entry meets no other with its number or its hash. -/
theorem fresh_iff (he : sealEntry C h env (populateEntry h env call s (nextLink C env db s)) = .ok e) :
    (∀ r ∈ db.entries.rows, r.clash (insertRow h.signEnabled db.nextRowid e) = false) ↔
      (∀ r ∈ db.entries.rows, r.sessionId = snprintfS 64 s →
        r.sequence ≠ (nextLink C env db s).1) ∧
      ∀ r ∈ db.entries.rows, r.chainEntryHash ≠ C.sha256Hex (nextText C h env call s db) := by
  obtain ⟨hcore, -, hhash, -⟩ := sealEntry_ok he
  have hsid : e.sessionId = .copy 64 s := congrArg Entry.sessionId hcore
  have hseq : e.sequence = (nextLink C env db s).1 := congrArg Entry.sequence hcore
  have hdigest : e.chainEntryHash.bytes = C.sha256Hex (nextText C h env call s db) := by
    rw [hhash, Field.bytes_copy]
    exact snprintfS_eq_self (fun hm => (C.plain_sha256Hex _ _ hm).2 rfl) (by simp)
  simp only [EntryRow.clash, insertRow, hsid, hseq, hdigest, Field.bytes_copy,
    Bool.or_eq_false_iff, Bool.and_eq_false_imp, beq_iff_eq, beq_eq_false_iff_ne, ← forall₂_and]

/-- **When the row goes in.** -/
theorem rowGoesIn_iff : RowGoesIn C h env call s useEpoch db ↔
    ∃ e db', prepareEntry C h env call s useEpoch db = .ok e ∧ insertEntry h env db e = .ok db' := by
  constructor
  · intro hr
    obtain ⟨e, he⟩ := (sealEntry_ok_iff (C := C)).mpr ⟨hr.short, hr.hmac, hr.sign⟩
    obtain ⟨db', hins⟩ := insertEntry_ok_iff.mpr
      ⟨hr.insert, (fresh_iff he).mpr ⟨hr.number, hr.hash⟩⟩
    refine ⟨e, db', ?_, hins⟩
    unfold prepareEntry
    rw [nativeEpochDestination_ok_iff.mpr hr.epoch, federationGate_ok_iff.mpr hr.federation]
    exact he
  · rintro ⟨e, db', hp, hins⟩
    unfold prepareEntry at hp
    obtain ⟨_, hepoch, hp⟩ := bind_ok.mp hp
    obtain ⟨_, hgate, he⟩ := bind_ok.mp hp
    obtain ⟨hshort, hhmac, hsign⟩ := sealEntry_ok_iff.mp ⟨e, he⟩
    obtain ⟨hinsert, hfresh⟩ := insertEntry_ok_iff.mp ⟨db', hins⟩
    obtain ⟨hnumber, hhash⟩ := (fresh_iff he).mp hfresh
    exact ⟨nativeEpochDestination_ok_iff.mp hepoch, federationGate_ok_iff.mp hgate, hshort, hhmac,
      hsign, hinsert, hnumber, hhash⟩

theorem headUpsertLocked_ok_iff {seq : Int} {hash : Bytes} :
    (∃ db', headUpsertLocked C h env db s seq hash = .ok db') ↔ env.fails .headHmac = false ∧
      (h.signSeed ≠ none → env.fails .headSign = false ∧
        (chainsignInput tagHead (headBytes env.stack s seq hash)).isSome = true) ∧
      env.fails .headUpsert = false := by
  unfold headUpsertLocked
  simp only [bind_ok, failIf_eq_ok_iff]
  constructor
  · rintro ⟨db', _, hhmac, sig, hsig, _, hup, -⟩
    exact ⟨hhmac, signText_ok_iff.mp ⟨sig, hsig⟩, hup⟩
  · rintro ⟨hhmac, hsign, hup⟩
    obtain ⟨sig, hsig⟩ := (signText_ok_iff (C := C)).mpr hsign
    exact ⟨_, (), hhmac, sig, hsig, (), hup, rfl⟩

theorem artifactStore_ok_iff : (∃ db', artifactStore env db call s = .ok db') ↔
    (cstr (call.artifactContent.getD []) ≠ [] → env.fails .artifactStore = false) := by
  unfold artifactStore
  cases cstr (call.artifactContent.getD []) with
  | nil => simp
  | cons b body => cases env.fails .artifactStore <;> simp

/-- **When the whole transaction goes through.** -/
theorem appendTxn_ok_iff : (∃ p, appendTxn C h env call s useEpoch db = .ok p) ↔
    RowGoesIn C h env call s useEpoch db ∧ RestGoesIn C h env call s db := by
  -- the head is that of the sealed entry
  have hkey {e : Entry} (hp : prepareEntry C h env call s useEpoch db = .ok e) :
      e.sequence = (nextLink C env db s).1 ∧
        e.chainEntryHash.bytes = C.sha256Hex (nextText C h env call s db) := by
    unfold prepareEntry at hp
    obtain ⟨_, -, hp⟩ := bind_ok.mp hp
    obtain ⟨_, -, he⟩ := bind_ok.mp hp
    obtain ⟨hcore, -, hhash, -⟩ := sealEntry_ok he
    refine ⟨congrArg Entry.sequence hcore, ?_⟩
    rw [hhash, Field.bytes_copy]
    exact snprintfS_eq_self (fun hm => (C.plain_sha256Hex _ _ hm).2 rfl) (by simp)
  constructor
  · rintro ⟨p, ht⟩
    unfold appendTxn at ht
    obtain ⟨e, hprep, ht⟩ := bind_ok.mp ht
    obtain ⟨db₁, hins, ht⟩ := bind_ok.mp ht
    obtain ⟨db₂, hhead, ht⟩ := bind_ok.mp ht
    obtain ⟨db₃, hart, -⟩ := bind_ok.mp ht
    have hup : ∃ d, headUpsertLocked C h env db₁ s e.sequence e.chainEntryHash.bytes = .ok d := by
      cases hu : headUpsertLocked C h env db₁ s e.sequence e.chainEntryHash.bytes with
      | ok d => exact ⟨d, rfl⟩
      | error err => simp [hu, Except.mapError] at hhead
    obtain ⟨hseq, hhash⟩ := hkey hprep
    rw [headUpsertLocked_ok_iff, hseq, hhash] at hup
    exact ⟨rowGoesIn_iff.mpr ⟨e, db₁, hprep, hins⟩,
      ⟨hup.1, hup.2.1, hup.2.2, artifactStore_ok_iff.mp ⟨db₃, hart⟩⟩⟩
  · rintro ⟨hr, hrest⟩
    obtain ⟨e, db₁, hprep, hins⟩ := rowGoesIn_iff.mp hr
    obtain ⟨hseq, hhash⟩ := hkey hprep
    obtain ⟨db₂, hup⟩ : ∃ d,
        headUpsertLocked C h env db₁ s e.sequence e.chainEntryHash.bytes = .ok d := by
      rw [headUpsertLocked_ok_iff, hseq, hhash]
      exact ⟨hrest.headHmac, hrest.headSign, hrest.headUpsert⟩
    obtain ⟨db₃, hart⟩ : ∃ d, artifactStore env db₂ call s = .ok d :=
      artifactStore_ok_iff.mpr hrest.body
    refine ⟨(db₃, e), ?_⟩
    unfold appendTxn
    simp only [bind, Except.bind, hprep, hins, hup, Except.mapError, hart]

/-- **When a lost transaction leaves a row.** -/
theorem appendLost_landed_iff : (appendLost C h env call s useEpoch db).2.1.isSome = true ↔
    RowGoesIn C h env call s useEpoch db := by
  rw [rowGoesIn_iff]
  unfold appendLost
  cases hprep : prepareEntry C h env call s useEpoch db with
  | error err => simp
  | ok e =>
    cases hins : insertEntry h env db e with
    | error err => simp [hins]
    | ok db₁ =>
      simp only [Except.ok.injEq, exists_and_left, exists_eq_left', hins, exists_eq', iff_true]
      split
      · rfl
      · split <;> rfl

end

/-! ## What a failed append leaves -/

/-- When an append that has begun leaves a trace. -/
theorem leavesTrace_iff {h : Handle} {env : Env} {st : Store} {call : AppendCall} {s : Bytes}
    {useEpoch : Bool} (hro : ¬ h.readOnly = true) (hopen : env.fails .begin = false ∧ st.txn = none)
    (hdest : epochSession h call.sessionId = .ok (s, useEpoch)) (hstr : appendStringsOk s call = true) :
    LeavesTrace C h env st call ↔ RowGoesIn C h env call s useEpoch st.committed ∧
      (env.fails .getLastRolledBack = true ∨
        RestGoesIn C h env call s st.committed ∧ env.commit = .failedOpen) := by
  constructor
  · rintro ⟨-, -, -, s', useEpoch', hs, -, hrest⟩
    rw [hdest] at hs
    cases hs
    exact hrest
  · exact fun hrest => ⟨by simpa using hro, hopen.1, hopen.2, s, useEpoch, hdest, hstr, hrest⟩

/-- **What a failed append leaves**: the store as it was, or a trace. -/
theorem chainAppend_error_cases {h : Handle} {env : Env} {st : Store} {call : AppendCall}
    {err : VirpError} (ha : (chainAppend C h env st call).result = .error err) :
    ((chainAppend C h env st call).store = st ∧ ¬ LeavesTrace C h env st call) ∨
      (LeavesTrace C h env st call ∧ ((chainAppend C h env st call).store.txn ≠ none ∨
        (chainAppend C h env st call).store.committed ≠ st.committed)) := by
  by_cases hro : h.readOnly = true
  · refine .inl ⟨by rw [chainAppend, if_pos hro], fun ht => ?_⟩
    exact Bool.false_ne_true (ht.1.symm.trans hro)
  cases hdest : epochSession h call.sessionId with
  | error err =>
    refine .inl ⟨by rw [chainAppend, if_neg hro, hdest], ?_⟩
    rintro ⟨-, -, -, s, useEpoch, hs, -⟩
    rw [hdest] at hs
    cases hs
  | ok dest =>
  obtain ⟨s, useEpoch⟩ := dest
  by_cases hstr : appendStringsOk s call = false
  · refine .inl ⟨by simp only [chainAppend, if_neg hro, hdest, if_pos hstr], ?_⟩
    rintro ⟨-, -, -, s', useEpoch', hs, hok, -⟩
    rw [hdest] at hs
    cases hs
    exact Bool.false_ne_true (hstr.symm.trans hok)
  by_cases hbegin : (env.fails .begin || st.txn.isSome) = true
  · refine .inl ⟨by simp only [chainAppend, if_neg hro, hdest, if_neg hstr, if_pos hbegin], ?_⟩
    rintro ⟨-, hb, hidle, -⟩
    simp [hb, hidle] at hbegin
  have hopen : env.fails .begin = false ∧ st.txn = none := by
    simpa only [Bool.or_eq_true, not_or, Bool.not_eq_true, Option.isSome_eq_false_iff,
      Option.isNone_iff_eq_none] using hbegin
  rw [Bool.not_eq_false] at hstr
  have htrace := leavesTrace_iff (C := C) hro hopen hdest hstr
  have hsame : (⟨st.committed, none⟩ : Store) = st := by rw [← hopen.2]
  by_cases hlost : env.fails .getLastRolledBack = true
  · have heq := congrArg Appended.store (chainAppend_of_lost (C := C) hro hdest hstr hbegin hlost)
    have hiff : (appendLost C h env call s useEpoch st.committed).2.1.isSome = true ↔
        RowGoesIn C h env call s useEpoch st.committed := appendLost_landed_iff
    rcases appendLost_cases (C := C) h env call s useEpoch st.committed with
      ⟨err, hnone⟩ | ⟨db', e, err, hsome, D⟩
    · rw [hnone] at heq hiff
      refine .inl ⟨heq.trans hsame, fun ht => ?_⟩
      exact Bool.false_ne_true (hiff.mpr (htrace.mp ht).1)
    · rw [hsome] at heq hiff
      refine .inr ⟨htrace.mpr ⟨hiff.mp rfl, .inl hlost⟩, .inr fun hdb => ?_⟩
      rw [heq] at hdb
      have hrows := D.entries_eq
      rw [show db' = st.committed from hdb] at hrows
      simpa using congrArg List.length hrows
  have hstore := chainAppend_of_txn (C := C) hro hdest hstr hbegin hlost
  have hiff : (∃ p, appendTxn C h env call s useEpoch st.committed = .ok p) ↔
      RowGoesIn C h env call s useEpoch st.committed ∧ RestGoesIn C h env call s st.committed :=
    appendTxn_ok_iff
  cases htxn : appendTxn C h env call s useEpoch st.committed with
  | error err =>
    rw [htxn] at hstore hiff
    refine .inl ⟨by rw [hstore], fun ht => ?_⟩
    obtain ⟨hr, hl | ⟨hrest, -⟩⟩ := htrace.mp ht
    · exact hlost hl
    · obtain ⟨p, hp⟩ := hiff.mpr ⟨hr, hrest⟩
      cases hp
  | ok done =>
    rw [htxn] at hstore hiff
    obtain ⟨hr, hrest⟩ := hiff.mp ⟨done, rfl⟩
    cases hcommit : env.commit with
    | ok =>
      rw [hstore, hcommit] at ha
      cases ha
    | failedOpen =>
      rw [hcommit] at hstore
      refine .inr ⟨htrace.mpr ⟨hr, .inr ⟨hrest, hcommit⟩⟩, .inl ?_⟩
      rw [hstore]
      exact Option.some_ne_none _
    | failedRolledBack =>
      rw [hcommit] at hstore
      refine .inl ⟨by rw [hstore]; exact hsame, fun ht => ?_⟩
      obtain ⟨-, hl | ⟨-, hc⟩⟩ := htrace.mp ht
      · exact hlost hl
      · rw [hcommit] at hc
        cases hc

theorem AsBefore.refl {st : Store} (h : st.txn = none) : AsBefore C st st where
  committed := rfl
  closed := h
  append := fun _ _ _ => rfl
  verifySession := fun _ _ _ _ => rfl
  verifyRange := fun _ _ _ _ _ _ => rfl

/-- One operation keeps the handle free of open transactions, unless it leaves a trace. -/
theorem txn_runStep {r : RunState} {op : ChainOp} (hr : r.store.txn = none)
    (hop : ¬ op.LeavesTrace C r.store) : (runStep C r op).store.txn = none := by
  cases op with
  | append h env call =>
    rcases chainAppend_cases C h env r.store call with ⟨-, -, err, hres⟩ | ⟨db', e, hl⟩
    · rcases chainAppend_error_cases hres with ⟨hstore, -⟩ | ⟨htrace, -⟩
      · rw [runStep, hstore]
        exact hr
      · exact absurd htrace hop
    · rw [runStep, hl.store_eq]
  | storeIntent h fails intentId intentHash =>
    simp only [runStep, chainIntentStoreLocked, hr]
    by_cases hskip : (h.readOnly || fails) = true
    · rw [if_pos hskip, hr]
    · rw [if_neg hskip]
  | reopen => rfl

/-- A run none of whose appends leaves a trace when it fails. -/
theorem txn_run {ops : List ChainOp}
    (hops : ∀ pre op post, ops = pre ++ op :: post → ¬ op.LeavesTrace C (run C pre).store) :
    (run C ops).store.txn = none := by
  induction ops using List.reverseRecOn with
  | nil => rfl
  | append_singleton ops op ih =>
    have hpre : (run C ops).store.txn = none := by
      refine ih fun pre o post he => hops pre o (post ++ [op]) ?_
      rw [he, List.append_assoc, List.cons_append]
    have hrun : run C (ops ++ [op]) = runStep C (run C ops) op := by
      rw [run, List.foldl_append]
      rfl
    rw [hrun]
    exact txn_runStep hpre (hops ops op [] rfl)

/-- **A failed append leaves no trace** exactly when no transaction was open and it is none of
those that leave one; and in a run without such an append, no transaction is open at any point. -/
theorem failed_append_leaves_no_trace :
    (∀ h env st call st' err, chainAppendLocked C h env st call = (st', .error err) →
      (AsBefore C st st' ↔ st.txn = none ∧ ¬ LeavesTrace C h env st call)) ∧
    (∀ ops, (∀ pre op post, ops = pre ++ op :: post → ¬ op.LeavesTrace C (run C pre).store) →
      (run C ops).store.txn = none) := by
  refine ⟨?_, fun ops => txn_run⟩
  intro h env st call st' err ha
  obtain ⟨rfl, hres⟩ := Prod.mk.inj ha
  rcases chainAppend_error_cases hres with ⟨hstore, hno⟩ | ⟨htrace, hleft⟩
  · rw [hstore]
    exact ⟨fun hb => ⟨hb.closed, hno⟩, fun hb => .refl hb.1⟩
  · refine iff_of_false (fun hb => ?_) fun hb => hb.2 htrace
    rcases hleft with hopen | hcommitted
    · exact hopen hb.closed
    · exact hcommitted hb.committed

namespace Sample

/-- A `COMMIT` that finds the database busy. -/
def busyEnv : Env := { Sample.env with commit := .failedOpen }

/-- A read of the last entry that fails and takes the transaction with it. -/
def lostEnv : Env := { Sample.env with fails := fun s => decide (s = .getLastRolledBack) }

/-- An `INSERT` that fails. -/
def fullEnv : Env := { Sample.env with fails := fun s => decide (s = .insert) }

end Sample

open Sample

/-- An append whose `INSERT` fails leaves no trace in the run after it. -/
theorem failed_append_leaves_no_trace_insert :
    (chainAppendLocked crypto handle fullEnv Store.empty
      observation).2.isOk = false ∧
    AsBefore crypto Store.empty (chainAppendLocked crypto handle
      fullEnv Store.empty observation).1 ∧
    (run crypto [.append handle fullEnv observation]).store.txn =
      none := by
  have hnot : ¬ LeavesTrace crypto handle fullEnv Store.empty observation := by
    rintro ⟨-, -, -, s, useEpoch, -, -, hrow, -⟩
    exact nomatch hrow.insert
  have herr : (chainAppendLocked crypto handle fullEnv Store.empty
      observation).2.isOk = false := by decide +kernel
  refine ⟨herr, ?_, failed_append_leaves_no_trace.2 _ ?_⟩
  · cases hres : chainAppendLocked crypto handle fullEnv Store.empty
        observation with
    | mk st' res =>
      cases res with
      | ok e => simp [hres, Except.isOk, Except.toBool] at herr
      | error err =>
        exact (failed_append_leaves_no_trace.1 _ _ _ _ _ _ hres).mpr ⟨rfl, hnot⟩
  · intro pre op post he
    cases pre with
    | nil =>
      obtain ⟨rfl, -⟩ := List.cons.inj he
      exact hnot
    | cons o pre =>
      obtain ⟨-, he⟩ := List.cons.inj he
      exact absurd he.symm (by simp)

/-- **Two appends that fail and leave a trace.**  A `COMMIT` that fails is not rolled back: the
append is reported as failed, and its transaction stays open; the next append, which would have
succeeded, is refused, and the session that was never committed is verified as it stands in the
transaction.  A read that loses the transaction: the append is reported as failed, and its row is
committed. -/
theorem failed_commit_left_open :
    (chainAppendLocked crypto handle busyEnv Store.empty observation).2.isOk = false ∧
    (chainAppendLocked crypto handle busyEnv Store.empty observation).1.txn.isSome = true ∧
    (chainAppendLocked crypto handle Sample.env Store.empty observation).2.isOk = true ∧
    (chainAppendLocked crypto handle Sample.env
      (chainAppendLocked crypto handle busyEnv Store.empty observation).1 observation).2.isOk =
        false ∧
    (chainVerifySessionLocked crypto parseCitation handle readEnv Store.empty.view
      (text "s1")).valid = false ∧
    (chainVerifySessionLocked crypto parseCitation handle readEnv
      (chainAppendLocked crypto handle busyEnv Store.empty observation).1.view
      (text "s1")).valid = true ∧
    (chainAppendLocked crypto handle lostEnv Store.empty observation).2.isOk = false ∧
    (chainVerifySessionLocked crypto parseCitation handle readEnv
      (chainAppendLocked crypto handle lostEnv Store.empty observation).1.committed
      (text "s1")).valid = true := by
  decide +kernel

end Virp
