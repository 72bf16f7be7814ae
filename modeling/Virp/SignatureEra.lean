import Virp.ChainColumns

/-! # The signature era

With a public key the verifier also grades signatures.  What the walk accepts is a
run of unsigned entries followed by signed ones (`SigAcceptedAll.split`), and the era
of a valid session is read off these two runs (`SessionValid.era`).

Removing signatures from a fully signed session therefore never goes unnoticed:
`valid_signed` is lost, and the session is broken if a signed entry stands before an
unsigned one.  What remains valid after a proper initial segment was removed is
reported as signed from the first remaining signature on (`stripped_session`).
-/
namespace Virp

open List EntryRow

variable {C : Crypto} {parse : Bytes → Option Json} {v : Handle} {env : ReadEnv} {db db' : Db}

variable {es us ss : List Entry} {n : Int} {r : EntryRow}

variable {signed : Int} {α : Type} {q : Bytes}

/-- After a signed entry every entry is signed. -/
theorem SigAcceptedAll.all_signed (hpos : 0 < signed) (h : SigAcceptedAll C v true signed es) :
    ∀ e ∈ es, e.chainSig.bytes ≠ [] := by
  induction es generalizing signed with
  | nil => simp
  | cons e es ih =>
    obtain ⟨haccept, hrest⟩ := h
    have hsig : e.chainSig.bytes ≠ [] := by
      intro hnil
      have := (haccept rfl).1 hnil
      omega
    refine forall_mem_cons.mpr ⟨hsig, ih ?_ hrest⟩
    rw [if_pos ⟨rfl, hsig⟩]
    omega

/-- **The shape of an accepted walk**: unsigned entries, then signed ones. -/
theorem SigAcceptedAll.split (h : SigAcceptedAll C v true 0 es) :
    ∃ us ss, es = us ++ ss ∧ (∀ e ∈ us, e.chainSig.bytes = []) ∧
      ∀ e ∈ ss, e.chainSig.bytes ≠ [] := by
  induction es with
  | nil => exact ⟨[], [], rfl, by simp, by simp⟩
  | cons e es ih =>
    obtain ⟨-, hrest⟩ := h
    by_cases hsig : e.chainSig.bytes = []
    · rw [if_neg (fun hc => hc.2 hsig)] at hrest
      obtain ⟨us, ss, rfl, hus, hss⟩ := ih hrest
      exact ⟨e :: us, ss, rfl, forall_mem_cons.mpr ⟨hsig, hus⟩, hss⟩
    · rw [if_pos ⟨rfl, hsig⟩] at hrest
      exact ⟨[], e :: es, rfl, by simp,
        forall_mem_cons.mpr ⟨hsig, hrest.all_signed (by decide)⟩⟩

/-- Unsigned entries count as such and leave the first signed entry open. -/
theorem foldl_unsigned (us : List Entry) (hus : ∀ e ∈ us, e.chainSig.bytes = []) (w : Walk) :
    (us.foldl (Walk.next C parse v env db true) w).entriesUnsigned = w.entriesUnsigned + us.length ∧
    (us.foldl (Walk.next C parse v env db true) w).unsignedPrefix =
      (w.unsignedPrefix || !us.isEmpty) ∧
    (us.foldl (Walk.next C parse v env db true) w).firstSignedSeq = w.firstSignedSeq := by
  induction us generalizing w with
  | nil => simp
  | cons e us ih =>
    obtain ⟨hsig, hus⟩ := forall_mem_cons.mp hus
    obtain ⟨-, hunsigned, hfirst, hseq, -⟩ := @Walk.next_sig C parse v env db true w e
    obtain ⟨h1, h2, h3⟩ := ih hus (w.next C parse v env db true e)
    rw [foldl_cons, h1, h2, h3, hunsigned, hfirst, hseq]
    simp only [Walk.countSig, if_true, hsig, countUnsigned, length_cons, Bool.true_or,
      isEmpty_cons, Bool.not_false, Bool.or_true, and_true]
    omega

/-- Signed entries leave the other counters, and the first of them is remembered. -/
theorem foldl_signed (ss : List Entry) (hss : ∀ e ∈ ss, e.chainSig.bytes ≠ [])
    (hseq : ∀ e ∈ ss, 0 ≤ e.sequence) (w : Walk) :
    (ss.foldl (Walk.next C parse v env db true) w).entriesUnsigned = w.entriesUnsigned ∧
    (ss.foldl (Walk.next C parse v env db true) w).unsignedPrefix = w.unsignedPrefix ∧
    (ss.foldl (Walk.next C parse v env db true) w).firstSignedSeq =
      (if w.firstSignedSeq < 0 then (ss.head?.map Entry.sequence).getD w.firstSignedSeq
        else w.firstSignedSeq) ∧ (ss.foldl (Walk.next C parse v env db true) w).firstSignedNs =
      (if w.firstSignedSeq < 0 then (ss.head?.map Entry.timestampNs).getD w.firstSignedNs
        else w.firstSignedNs) := by
  induction ss generalizing w with
  | nil => simp
  | cons e ss ih =>
    obtain ⟨hsig, hss⟩ := forall_mem_cons.mp hss
    obtain ⟨h0, hseq⟩ := forall_mem_cons.mp hseq
    obtain ⟨-, hunsigned, hprefixed, hfirst, hns⟩ := @Walk.next_sig C parse v env db true w e
    obtain ⟨h1, h2, h3, h4⟩ := ih hss hseq (w.next C parse v env db true e)
    rw [foldl_cons, h1, h2, h3, h4, hunsigned, hprefixed, hfirst, hns]
    simp only [Walk.countSig, if_true, hsig, if_false, head?_cons, Option.map_some,
      Option.getD_some, true_and]
    by_cases hw : w.firstSignedSeq < 0
    · simp [hw, Int.not_lt.mpr h0]
    · simp [hw]

/-- The walk's signature counters, from the two runs. -/
theorem walked_split (parse : Bytes → Option Json) (env : ReadEnv) {s : Bytes}
    (hc : checksSigs C v db s = true) (hes : entriesRead v db s 0 n = us ++ ss)
    (hus : ∀ e ∈ us, e.chainSig.bytes = []) (hss : ∀ e ∈ ss, e.chainSig.bytes ≠ [])
    (hseq : ∀ e ∈ ss, 0 ≤ e.sequence) : (walked C parse v env db s n).entriesUnsigned = us.length ∧
    (walked C parse v env db s n).unsignedPrefix = !us.isEmpty ∧
    (walked C parse v env db s n).firstSignedSeq = (ss.head?.map Entry.sequence).getD (-1) ∧
    (walked C parse v env db s n).firstSignedNs = (ss.head?.map Entry.timestampNs).getD
      (us.foldl (Walk.next C parse v env db true)
        (.start 0 (computeGenesisHash C env.stack s))).firstSignedNs := by
  rw [walked, hc, hes, foldl_append]
  obtain ⟨h1, h2, h3⟩ := foldl_unsigned (C := C) us hus (.start 0 (computeGenesisHash C env.stack s))
  obtain ⟨g1, g2, g3, g4⟩ := foldl_signed ss hss hseq
    (us.foldl (Walk.next C parse v env db true) (.start 0 (computeGenesisHash C env.stack s)))
  rw [g1, g2, g3, g4, h1, h2, h3]
  simp [Walk.start]

/-- In a valid session the sequence numbers are those of the walk. -/
theorem SessionValid.walked_split {s : Bytes} {row : HeadRow}
    (h : SessionValid C parse v env db s row) (hc : checksSigs C v db s = true)
    (hes : entriesRead v db s 0 row.lastSequence = us ++ ss) (hus : ∀ e ∈ us, e.chainSig.bytes = [])
    (hss : ∀ e ∈ ss, e.chainSig.bytes ≠ []) :
    (walked C parse v env db s row.lastSequence).entriesUnsigned = us.length ∧
    (walked C parse v env db s row.lastSequence).unsignedPrefix = !us.isEmpty ∧
    (walked C parse v env db s row.lastSequence).firstSignedSeq =
      (ss.head?.map Entry.sequence).getD (-1) ∧
    (walked C parse v env db s row.lastSequence).firstSignedNs =
      (ss.head?.map Entry.timestampNs).getD (us.foldl (Walk.next C parse v env db true)
        (.start 0 (computeGenesisHash C env.stack s))).firstSignedNs := by
  refine Virp.walked_split parse env hc hes hus hss fun e he => ?_
  exact (HashChain.Linked.seq_mem h.linked (hes ▸ mem_append_right _ he)).1

/-- Signatures are checked by a verifier with the public key and the columns. -/
theorem checksSigs_cols {s : Bytes} (hc : checksSigs C v db s = true) :
    verifySigEnabled v = true ∧ v.entrySigCols = true := by
  unfold checksSigs at hc
  simp only [Bool.and_eq_true] at hc
  exact hc.1.1

theorem walkedResult_entriesUnsigned {s : Bytes} :
    (walkedResult C parse v env db s n).entriesUnsigned =
      (walked C parse v env db s n).entriesUnsigned := by
  rw [walkedResult, gradeCutover]
  split_ifs <;> rfl

/-- The result of a valid session whose signatures are graded. -/
theorem SessionValid.era_eq {s : Bytes} {row : HeadRow} (h : SessionValid C parse v env db s row)
    (hc : checksSigs C v db s = true) : (chainVerifySessionLocked C parse v env db s).sigEra =
      (gradeEra v true false (walkedResult C parse v env db s row.lastSequence)).sigEra ∧
    (chainVerifySessionLocked C parse v env db s).sigTransitionSeq =
      (walkedResult C parse v env db s row.lastSequence).sigTransitionSeq ∧
    ((chainVerifySessionLocked C parse v env db s).validSigned = true ↔
      (chainVerifySessionLocked C parse v env db s).sigEra = .signed) := by
  have hvalid := h.walked_valid
  have hhead := headIsSigned_of_checkHead h.headOk hc
  have hkey : keyUnavailable C v db s = false := by
    unfold checksSigs at hc
    simpa using (Bool.and_eq_true_iff.mp hc).2
  have htransition : ∀ (b u : Bool) (r : VerifyResult),
      (gradeEra v b u r).sigTransitionSeq = r.sigTransitionSeq := by
    intro b u r
    unfold gradeEra
    split_ifs <;> rfl
  have hera : (gradeEra v (headIsSigned v (readHead v row)) (keyUnavailable C v db s)
      (walkedResult C parse v env db s row.lastSequence)).valid = _ := gradeEra_walkedResult h.headOk
  rw [hhead, hkey] at hera
  rw [h.result_eq, closeSession]
  simp only [walkedResult_rc, hvalid, h.last, hhead, hkey, ne_eq, not_true_eq_false,
    Bool.true_eq_false, or_self, if_false, htransition, hera, Bool.true_and, decide_eq_true_eq]
  trivial

/-- **The era of a valid session** is that of its two runs: signed, if there is no
unsigned entry; signed from the first signature on, if there are both; not graded, if
there is no signed entry. -/
theorem SessionValid.era {s : Bytes} {row : HeadRow} (h : SessionValid C parse v env db s row)
    (hc : checksSigs C v db s = true) : ∃ us ss, entriesRead v db s 0 row.lastSequence = us ++ ss ∧
      (∀ e ∈ us, e.chainSig.bytes = []) ∧ (∀ e ∈ ss, e.chainSig.bytes ≠ []) ∧
      (us ≠ [] → (chainVerifySessionLocked C parse v env db s).validSigned = false) ∧
      (us ≠ [] → ∀ e, ss.head? = some e →
        (chainVerifySessionLocked C parse v env db s).sigEra = .fromN ∧
        (chainVerifySessionLocked C parse v env db s).sigTransitionSeq = e.sequence ∧
        fromNTemporallyOk e.timestampNs (cutoverNs v db) = true) := by
  have hsigs := h.sigs
  rw [hc] at hsigs
  obtain ⟨us, ss, hes, hus, hss⟩ := hsigs.split
  obtain ⟨hunsigned, hprefixed, hfirst, hns⟩ := h.walked_split hc hes hus hss
  obtain ⟨hera, htransition, hclean⟩ := h.era_eq hc
  have hcols := checksSigs_cols hc
  have hsome : us ≠ [] → (walkedResult C parse v env db s row.lastSequence).entriesUnsigned ≠ 0 := by
    intro hne
    rw [walkedResult_entriesUnsigned, hunsigned]
    have := length_pos_of_ne_nil hne
    omega
  refine ⟨us, ss, hes, hus, hss, fun hne => ?_, fun hne e he => ?_⟩
  · rw [← Bool.not_eq_true, hclean, hera, gradeEra]
    simp only [hcols.1, hcols.2, Bool.not_true, Bool.or_self, Bool.false_eq_true, if_false,
      Bool.true_eq_false, and_false, hsome hne]
    split_ifs <;> simp
  · -- the first signed entry stands after the unsigned ones
    have hpos : 0 < e.sequence := by
      obtain ⟨ss', rfl⟩ := head?_eq_some_iff.mp he
      have hlen : us.length < (us ++ e :: ss').length := by simp
      have hat := HashChain.Linked.seq_getElem h.linked us.length (by rw [hes]; exact hlen)
      simp only [hes, getElem_append_right (Nat.le_refl _), Nat.sub_self, getElem_cons_zero] at hat
      have := length_pos_of_ne_nil hne
      omega
    rw [he, Option.map_some, Option.getD_some] at hfirst hns
    have hempty : us.isEmpty = false := by simpa using hne
    rw [hempty, Bool.not_false] at hprefixed
    obtain ⟨hreadable, htime⟩ := h.cutover hprefixed (hfirst ▸ hpos)
    rw [hns] at htime
    have hseqs : (walkedResult C parse v env db s row.lastSequence).sigTransitionSeq = e.sequence := by
      rw [walkedResult, gradeCutover, if_pos ⟨hprefixed, hfirst ▸ hpos⟩, hreadable]
      simp [hns, htime, hfirst]
    refine ⟨?_, htransition.trans hseqs, htime⟩
    rw [hera, gradeEra]
    simp [hcols.1, hcols.2, hsome hne, hseqs, hpos]

/-! ## Removing signatures -/

/-- A row without its signature columns. -/
def EntryRow.unsigned (r : EntryRow) : EntryRow := { r with chainSig := none, chainSigKeyId := none }

/-- `db'` is `db` with the signatures removed from the entries of `s` whose sequence
numbers are in `p`, and `f` says how each row was rewritten: a removed signature is
`NULL` or empty. -/
structure Stripped (s : Bytes) (p : Set Int) (f : EntryRow → EntryRow) (db db' : Db) : Prop where
  heads : db'.heads = db.heads
  artifacts : db'.artifacts = db.artifacts
  rows : db'.entries.rows = db.entries.rows.map f
  rest : ∀ r ∈ db.entries.rows, (f r).unsigned = r.unsigned
  gone : ∀ r ∈ db.entries.rows, r.sessionId = s → r.sequence ∈ p → (f r).chainSig.getD [] = []
  kept : ∀ r ∈ db.entries.rows, ¬(r.sessionId = s ∧ r.sequence ∈ p) → f r = r

namespace Stripped
variable {s : Bytes} {p : Set Int} {f : EntryRow → EntryRow}

section
variable (h : Stripped s p f db db')
include h

/-- Apart from signatures the rows are the same. -/
theorem map_unsigned :
    db'.entries.rows.map EntryRow.unsigned = db.entries.rows.map EntryRow.unsigned := by
  rw [h.rows, map_map]
  exact map_congr_left h.rest

theorem column_eq (g : EntryRow → α) (hg : ∀ r, g r.unsigned = g r) (hr : r ∈ db.entries.rows) :
    g (f r) = g r := by
  rw [← hg (f r), h.rest r hr, hg]

theorem getRange_eq (t : Bytes) (lo hi : Int) :
    db'.getRange t lo hi = (db.getRange t lo hi).map f := by
  have hsess : db'.sessionRows t = (db.sessionRows t).map f := by
    rw [Db.sessionRows, Db.sessionRows, h.rows, filter_map]
    have hfilter : db.entries.rows.filter ((fun r => r.sessionId == t) ∘ f) =
        db.entries.rows.filter (fun r => r.sessionId == t) := by
      refine filter_congr fun r hr => ?_
      rw [Function.comp_apply, h.column_eq sessionId (fun _ => rfl) hr]
    rw [hfilter]
    refine (map_insertionSort _ _ f _ fun a ha b hb => ?_).symm
    rw [h.column_eq sequence (fun _ => rfl) (mem_of_mem_filter ha),
      h.column_eq sequence (fun _ => rfl) (mem_of_mem_filter hb)]
  rw [Db.getRange, Db.getRange, hsess, filter_map]
  congr 1
  refine filter_congr fun r hr => ?_
  have hmem := mem_of_mem_filter ((mem_insertionSort _).mp hr)
  rw [Function.comp_apply, h.column_eq sequence (fun _ => rfl) hmem]

theorem entriesRead_eq (t : Bytes) (lo hi : Int) : entriesRead v db' t lo hi =
      (db.getRange t lo hi).map (fun r => readEntryFromStmt (v.readOnly && v.entrySigCols) (f r)) := by
  rw [entriesRead, h.getRange_eq, map_map]
  rfl

/-- What a row without its signature determines is found as before. -/
theorem filterMap_eq (g : EntryRow → Option α) (hg : ∀ r, g r.unsigned = g r) :
    db'.entries.rows.filterMap g = db.entries.rows.filterMap g := by
  have hrows : ∀ l : List EntryRow, l.filterMap g = (l.map unsigned).filterMap g := by
    intro l
    rw [filterMap_map]
    exact congrArg (fun k => l.filterMap k) (funext fun r => (hg r).symm)
  rw [hrows, h.map_unsigned, ← hrows]

theorem find?_bind (q : EntryRow → Bool) (g : EntryRow → Option α) (hq : ∀ r, q r.unsigned = q r)
    (hg : ∀ r, g r.unsigned = g r) :
    (db'.entries.rows.find? q).bind g = (db.entries.rows.find? q).bind g := by
  have hrows : ∀ l : List EntryRow,
      (l.find? q).bind g = ((l.map unsigned).find? q).bind g := by
    intro l
    rw [find?_map, Option.bind_map]
    have hcomp : q ∘ unsigned = q := funext hq
    rw [hcomp]
    exact congrArg ((l.find? q).bind ·) (funext fun r => (hg r).symm)
  rw [hrows, h.map_unsigned, ← hrows]

theorem artifactContent_eq : db'.artifactContent = db.artifactContent := by
  funext id hash
  rw [Db.artifactContent, h.artifacts]
  rfl

theorem parsedBody_eq : parsedBody parse db' = parsedBody parse db := by
  funext r
  rw [parsedBody, Db.bodyOf, h.artifactContent_eq]
  rfl

theorem bodyByEntryHash_eq (hash : Bytes) : bodyByEntryHash db' hash = bodyByEntryHash db hash := by
  have hbody : db'.bodyOf = db.bodyOf := by
    funext r
    rw [Db.bodyOf, h.artifactContent_eq]
    rfl
  rw [bodyByEntryHash, bodyByEntryHash, Db.entryByHash, Db.entryByHash, hbody]
  rw [h.find?_bind (·.chainEntryHash == hash) db.bodyOf (fun _ => rfl) (fun _ => rfl)]

theorem gradeIntent_eq (e : Entry) (body : Option Bytes) :
    gradeIntent parse env db' e body = gradeIntent parse env db e body := by
  have hclosers : closerMap parse db' = closerMap parse db := by
    have href : closerRef parse db' = closerRef parse db := by
      funext r
      rw [closerRef, closerRef, h.parsedBody_eq]
    rw [closerMap, closerMap, href, h.filterMap_eq _ (fun _ => rfl)]
  have hintents : intentMap parse db' = intentMap parse db := by
    have happroval : intentApproval parse db' = intentApproval parse db := by
      funext r
      rw [intentApproval, intentApproval, h.parsedBody_eq]
    rw [intentMap, intentMap, happroval, h.filterMap_eq _ (fun _ => rfl)]
  have hbinding : ∀ seq intent ref, bindingBad parse env db' seq intent ref =
      bindingBad parse env db seq intent ref := by
    intro seq intent ref
    unfold bindingBad
    cases intent with
    | none => rfl
    | some intent =>
      cases ref with
      | none => rfl
      | some ref =>
        simp only [h.parsedBody_eq]
        rw [h.find?_bind (·.rowid == ref.rowid) (parsedBody parse db) (fun _ => rfl) (fun _ => rfl)]
  have hof : ∀ hash, closersOf parse db' hash = closersOf parse db hash := by
    intro hash
    rw [closersOf, closersOf, hclosers]
  have hspent : ∀ seq intent, doubleSpent parse env db' seq intent =
      doubleSpent parse env db seq intent := by
    intro seq intent
    simp only [doubleSpent, countIntentsForApproval, hintents]
    rfl
  simp only [gradeIntent, hspent, hof, hbinding]

theorem gradeCloser_eq (e : Entry) (body : Option Bytes) :
    gradeCloser parse env db' e body = gradeCloser parse env db e body := by
  have htype : ∀ cited, (db'.entryByHash cited).bind (fun r => some r.artifactType) =
      (db.entryByHash cited).bind (fun r => some r.artifactType) :=
    fun cited => h.find?_bind (·.chainEntryHash == cited) _ (fun _ => rfl) (fun _ => rfl)
  unfold gradeCloser
  split
  · rfl
  rename_i cited _
  have hcited := htype cited
  cases hr' : db'.entryByHash cited <;> cases hr : db.entryByHash cited <;>
    simp only [hr, hr', Option.bind_some, Option.bind_none, reduceCtorEq, Option.some.injEq] at hcited ⊢
  rw [hcited]

/-- Removing signatures leaves everything but the signature of an entry authentic. -/
theorem authentic_iff (sigs : Bool) (hr : r ∈ db.entries.rows) :
    Authentic C parse v env db' (readEntryFromStmt sigs (f r)) ↔
      Authentic C parse v env db (readEntryFromStmt sigs r) := by
  have hread : (readEntryFromStmt sigs (f r)).withoutSig = (readEntryFromStmt sigs r).withoutSig :=
    h.column_eq (fun r => (readEntryFromStmt sigs r).withoutSig) (fun _ => rfl) hr
  have hcongr : ∀ (db : Db) (e : Entry), Authentic C parse v env db e ↔
      Authentic C parse v env db e.withoutSig :=
    fun db e => ⟨fun g => ⟨g.short, g.hash_eq, g.hmac_eq, g.binding, g.evidence⟩,
      fun g => ⟨g.short, g.hash_eq, g.hmac_eq, g.binding, g.evidence⟩⟩
  have hbinding : ∀ e, bindingOk C env db' e = bindingOk C env db e := by
    intro e
    simp only [bindingOk, verifyBinding, h.artifactContent_eq]
  have hevidence : ∀ e, evidenceOk parse env db' e = evidenceOk parse env db e := by
    intro e
    have hbody : evidenceBody env db' e = evidenceBody env db e := by
      rw [evidenceBody, evidenceBody, h.bodyByEntryHash_eq]
    simp only [evidenceOk, hbody, h.gradeIntent_eq, h.gradeCloser_eq]
  rw [hcongr db', hread, ← hcongr db']
  exact ⟨fun g => ⟨g.short, g.hash_eq, g.hmac_eq, hbinding _ ▸ g.binding, hevidence _ ▸ g.evidence⟩,
    fun g => ⟨g.short, g.hash_eq, g.hmac_eq, (hbinding _).symm ▸ g.binding,
      (hevidence _).symm ▸ g.evidence⟩⟩

end

end Stripped

/-! ## The verdict on a stripped session -/

/-- The handle verifies with a public key: it is read-only and fetches the signature
columns. -/
structure SigVerifier (v : Handle) : Prop where
  readOnly : v.readOnly = true
  entryCols : v.entrySigCols = true
  headCols : v.headSigCols = true
  pub : verifySigEnabled v = true

/-- The head of the session and the entries it covers carry signatures, the head's
under the verifier's key. -/
structure SignedSession (C : Crypto) (v : Handle) (db : Db) (s : Bytes) (row : HeadRow) : Prop where
  head : db.headGet s = some row
  headSig : cstr (row.headSig.getD []) ≠ []
  headKey : snprintfS 33 (row.headSigKeyId.getD []) = verifyKeyIdHex C v
  entries : ∀ r ∈ db.getRange s 0 row.lastSequence, cstr (r.chainSig.getD []) ≠ []

theorem snprintfS_eq_nil_iff {cap : Nat} (hcap : 1 < cap) (b : Bytes) :
    snprintfS cap b = [] ↔ cstr b = [] := by
  rw [snprintfS, take_eq_nil_iff]
  exact or_iff_right (by omega)

/-- The session counts as signed under the verifier's key, whatever its entries are. -/
theorem SignedSession.state_eq {s : Bytes} {row : HeadRow} (hv : SigVerifier v)
    (h : SignedSession C v db s row) (hheads : db'.heads = db.heads) :
    sessionSigState v db' s = (true, verifyKeyIdHex C v) := by
  have hrow : db'.headGet s = some row := by
    rw [Db.headGet, hheads]
    exact h.head
  simp only [sessionSigState, hrow, Option.bind_some, hv.headCols, h.headKey]
  exact if_pos ⟨trivial, h.headSig⟩

/-- Signatures are graded in a session whose head is signed under the verifier's key. -/
theorem SignedSession.checksSigs {s : Bytes} {row : HeadRow} (hv : SigVerifier v)
    (h : SignedSession C v db s row) (hheads : db'.heads = db.heads) : checksSigs C v db' s = true := by
  simp [Virp.checksSigs, keyUnavailable, h.state_eq hv hheads, hv.pub, hv.entryCols]

theorem chainVerifyLocked_validSigned {s : Bytes} :
    (chainVerifyLocked C parse v env db s 0 n).1.validSigned = false := by
  have hcomplete : ∀ w lo hi r, (gradeCompleteness w lo hi r).validSigned = r.validSigned := by
    intro w lo hi r
    unfold gradeCompleteness
    split_ifs <;> rfl
  have hcutover : ∀ w r, (gradeCutover v env db w r).validSigned = r.validSigned := by
    intro w r
    unfold gradeCutover
    split_ifs <;> rfl
  unfold chainVerifyLocked
  dsimp only
  split_ifs
  · rfl
  split
  · rfl
  split
  · rfl
  · rw [hcomplete, hcutover]
    rfl

/-- A clean bill of health takes a valid session. -/
theorem valid_of_validSigned {s : Bytes}
    (h : (chainVerifySessionLocked C parse v env db s).validSigned = true) :
    (chainVerifySessionLocked C parse v env db s).valid = true := by
  have hclose : ∀ hd u (walk : VerifyResult × Bytes), walk.1.validSigned = false →
      (closeSession v hd u walk).validSigned = true → (closeSession v hd u walk).valid = true := by
    intro hd u walk hwalk hclosed
    unfold closeSession at hclosed ⊢
    by_cases h1 : walk.1.rc ≠ none ∨ walk.1.valid = false
    · rw [if_pos h1, hwalk] at hclosed
      cases hclosed
    rw [if_neg h1] at hclosed ⊢
    by_cases h2 : walk.2 ≠ hd.hash.bytes
    · rw [if_pos h2] at hclosed
      simp [hwalk] at hclosed
    · rw [if_neg h2] at hclosed ⊢
      exact (Bool.and_eq_true_iff.mp hclosed).1
  unfold chainVerifySessionLocked at h ⊢
  cases hl : v.legacyNoHeads with
  | true =>
    rw [hl] at h
    cases h
  | false =>
    rw [hl] at h
    simp only [Bool.false_eq_true, if_false] at h ⊢
    cases hg : db.headGet s with
    | none =>
      rw [hg] at h
      cases h
    | some row =>
      simp only [hg] at h ⊢
      cases hh : checkHead C v env db s (readHead v row) (keyUnavailable C v db s) with
      | some why =>
        simp only [hh] at h
        cases h
      | none =>
        simp only [hh] at h ⊢
        exact hclose _ _ _ chainVerifyLocked_validSigned h

section
variable {s : Bytes} {row : HeadRow} {p : Set Int} {f : EntryRow → EntryRow}

/-- A stripped entry is one that reads back without a signature. -/
theorem SignedSession.sig_eq_nil_iff (hsigned : SignedSession C v db s row)
    (hstrip : Stripped s p f db db') (hr : r ∈ db.getRange s 0 row.lastSequence) :
    (readEntryFromStmt true (f r)).chainSig.bytes = [] ↔ r.sequence ∈ p := by
  have hread : (readEntryFromStmt true (f r)).chainSig.bytes = snprintfS 129 ((f r).chainSig.getD []) := by
    simp [readEntryFromStmt]
  obtain ⟨hmem, hs⟩ := mem_sessionRows.mp (mem_getRange.mp hr).1
  rw [hread, snprintfS_eq_nil_iff (by decide)]
  by_cases hp : r.sequence ∈ p
  · simp [hstrip.gone r hmem hs hp, hp, cstr]
  · rw [hstrip.kept r hmem (fun hc => hp hc.2)]
    simp [hp, hsigned.entries r hr]

/-- What is read of a stripped session, with the split of an accepted walk. -/
theorem Stripped.rows_split (hstrip : Stripped s p f db db') (hsigned : SignedSession C v db s row)
    (hv : SigVerifier v) (hes : entriesRead v db' s 0 row.lastSequence = us ++ ss)
    (hus : ∀ e ∈ us, e.chainSig.bytes = []) (hss : ∀ e ∈ ss, e.chainSig.bytes ≠ []) :
    ∃ l₁ l₂, db.getRange s 0 row.lastSequence = l₁ ++ l₂ ∧
      l₁.map (fun r => readEntryFromStmt true (f r)) = us ∧
      l₂.map (fun r => readEntryFromStmt true (f r)) = ss ∧
      (∀ r ∈ l₁, r.sequence ∈ p) ∧ ∀ r ∈ l₂, r.sequence ∉ p := by
  rw [hstrip.entriesRead_eq, hv.readOnly, hv.entryCols, Bool.and_self] at hes
  obtain ⟨l₁, l₂, hl, rfl, rfl⟩ := map_eq_append_iff.mp hes
  refine ⟨l₁, l₂, hl, rfl, rfl, fun r hr => ?_, fun r hr => ?_⟩
  · have hmem : r ∈ db.getRange s 0 row.lastSequence := hl ▸ mem_append_left _ hr
    exact (hsigned.sig_eq_nil_iff hstrip hmem).mp (hus _ (mem_map_of_mem hr))
  · have hmem : r ∈ db.getRange s 0 row.lastSequence := hl ▸ mem_append_right _ hr
    exact fun hp => hss _ (mem_map_of_mem hr) ((hsigned.sig_eq_nil_iff hstrip hmem).mpr hp)

/-- What a valid verdict on a stripped session takes, and what it then reports. -/
theorem Stripped.of_valid (hstrip : Stripped s p f db db') (hsigned : SignedSession C v db s row)
    (hv : SigVerifier v) (hne : ∃ r ∈ db.getRange s 0 row.lastSequence, r.sequence ∈ p)
    (hvalid : (chainVerifySessionLocked C parse v env db' s).valid = true) :
    (chainVerifySessionLocked C parse v env db' s).validSigned = false ∧
    ((∃ r ∈ db.getRange s 0 row.lastSequence, r.sequence ∉ p) →
      ∃ j ∈ db.getRange s 0 row.lastSequence,
        (∀ r ∈ db.getRange s 0 row.lastSequence, r.sequence ∈ p ↔ r.sequence < j.sequence) ∧
        (chainVerifySessionLocked C parse v env db' s).sigEra = .fromN ∧
        (chainVerifySessionLocked C parse v env db' s).sigTransitionSeq = j.sequence ∧
        fromNTemporallyOk (readEntryFromStmt true j).timestampNs (cutoverNs v db') = true) := by
  obtain ⟨row', h⟩ := valid_iff.mp hvalid
  have hrow : row' = row := by
    have hhead := h.head
    rw [Db.headGet, hstrip.heads] at hhead
    exact Option.mem_unique hhead hsigned.head
  subst hrow
  obtain ⟨us, ss, hes, hus, hss, hunclean, hera⟩ := h.era (hsigned.checksSigs hv hstrip.heads)
  obtain ⟨l₁, l₂, hl, hmap₁, hmap₂, hp₁, hp₂⟩ := hstrip.rows_split hsigned hv hes hus hss
  have husne : us ≠ [] := by
    obtain ⟨r, hr, hp⟩ := hne
    rw [hl] at hr
    rcases mem_append.mp hr with hr | hr
    · rw [← hmap₁]
      exact ne_nil_of_mem (mem_map_of_mem hr)
    · exact absurd hp (hp₂ r hr)
  refine ⟨hunclean husne, ?_⟩
  rintro ⟨r₀, hr₀, hp₀⟩
  have hmem₀ : r₀ ∈ l₂ := by
    rw [hl] at hr₀
    exact (mem_append.mp hr₀).resolve_left fun hr => hp₀ (hp₁ r₀ hr)
  obtain ⟨j, l₃, rfl⟩ := exists_cons_of_ne_nil (ne_nil_of_mem hmem₀)
  have hj : j ∈ db.getRange s 0 row'.lastSequence := by
    rw [hl]
    exact mem_append_right _ mem_cons_self
  have hjrow := (mem_sessionRows.mp (mem_getRange.mp hj).1).1
  have hkept : f j = j := hstrip.kept j hjrow fun hc => hp₂ j mem_cons_self hc.2
  -- the entries are numbered in order, so those before `j` are the ones with smaller numbers
  have hseq : ∀ r ∈ db.getRange s 0 row'.lastSequence,
      (readEntryFromStmt true (f r)).sequence = r.sequence := by
    intro r hr
    exact hstrip.column_eq sequence (fun _ => rfl) (mem_sessionRows.mp (mem_getRange.mp hr).1).1
  have horder := HashChain.Linked.pairwise h.linked
  rw [hes, ← hmap₁, ← hmap₂, ← map_append, ← hl, pairwise_map] at horder
  have hrows : (l₁ ++ j :: l₃).Pairwise (fun a b => a.sequence < b.sequence) := by
    rw [← hl]
    refine horder.imp_of_mem fun ha hb hab => ?_
    rwa [hseq _ ha, hseq _ hb] at hab
  obtain ⟨-, htail, hcross⟩ := pairwise_append.mp hrows
  obtain ⟨hera1, hera2, hera3⟩ := hera husne (readEntryFromStmt true (f j)) (by rw [← hmap₂]; rfl)
  rw [hkept] at hera2 hera3
  refine ⟨j, hj, fun r hr => ?_, hera1, hera2, hera3⟩
  rw [hl] at hr
  rcases mem_append.mp hr with hr | hr
  · exact iff_of_true (hp₁ r hr) (hcross r hr j mem_cons_self)
  refine iff_of_false (hp₂ r hr) ?_
  rcases mem_cons.mp hr with rfl | hr
  · exact Int.lt_irrefl _
  · have := (pairwise_cons.mp htail).1 r hr
    omega

/-- The signature of a signed entry of an accepted walk verifies. -/
theorem SigAcceptedAll.sig_ok (h : SigAcceptedAll C v true signed es) {e : Entry} (he : e ∈ es)
    (hsig : e.chainSig.bytes ≠ []) :
    e.chainSigKeyId.bytes = verifyKeyIdHex C v ∧ entrySigOk C v e = true := by
  induction es generalizing signed with
  | nil => cases he
  | cons a es ih =>
    obtain ⟨haccept, hrest⟩ := h
    rcases mem_cons.mp he with rfl | he
    · exact (haccept rfl).2 hsig
    · exact ih hrest he

/-- Entries whose signatures verify are acceptable, whatever stands before them. -/
theorem sigAcceptedAll_signed
    (hss : ∀ e ∈ ss, e.chainSig.bytes ≠ [] ∧ e.chainSigKeyId.bytes = verifyKeyIdHex C v ∧
      entrySigOk C v e = true) (signed : Int) : SigAcceptedAll C v true signed ss := by
  induction ss generalizing signed with
  | nil => trivial
  | cons e ss ih =>
    obtain ⟨⟨hsig, hok⟩, hss⟩ := forall_mem_cons.mp hss
    exact ⟨fun _ => ⟨fun hnil => absurd hnil hsig, fun _ => hok⟩, ih hss _⟩

/-- Unsigned entries followed by entries whose signatures verify are acceptable. -/
theorem sigAcceptedAll_append (hus : ∀ e ∈ us, e.chainSig.bytes = [])
    (hss : ∀ e ∈ ss, e.chainSig.bytes ≠ [] ∧ e.chainSigKeyId.bytes = verifyKeyIdHex C v ∧
      entrySigOk C v e = true) : SigAcceptedAll C v true 0 (us ++ ss) := by
  induction us with
  | nil => exact sigAcceptedAll_signed hss 0
  | cons e us ih =>
    obtain ⟨hsig, hus⟩ := forall_mem_cons.mp hus
    refine ⟨fun _ => ⟨fun _ => rfl, fun hne => absurd hsig hne⟩, ?_⟩
    rw [if_neg (fun hc => hc.2 hsig)]
    exact ih hus

/-- Whatever does not depend on signatures is read as before. -/
theorem Stripped.map_withoutSig (hstrip : Stripped s p f db db') (t : Bytes) (lo hi : Int) :
    (entriesRead v db' t lo hi).map Entry.withoutSig =
      (entriesRead v db t lo hi).map Entry.withoutSig := by
  rw [hstrip.entriesRead_eq, entriesRead, map_map, map_map]
  refine map_congr_left fun r hr => ?_
  have hmem := (mem_sessionRows.mp (mem_getRange.mp hr).1).1
  exact hstrip.column_eq
    (fun r => (readEntryFromStmt (v.readOnly && v.entrySigCols) r).withoutSig) (fun _ => rfl) hmem

theorem linkedEntries_withoutSig (es : List Entry) :
    LinkedEntries n q (es.map Entry.withoutSig) ↔ LinkedEntries n q es :=
  HashChain.linked_map Entry.withoutSig es

theorem tip_withoutSig (es : List Entry) :
    HashChain.tip (fun e : Entry => e.chainEntryHash.bytes) q (es.map Entry.withoutSig) =
      HashChain.tip (fun e : Entry => e.chainEntryHash.bytes) q es :=
  HashChain.tip_map Entry.withoutSig es

/-- **A stripped initial segment is excused** as the signing cutover is. -/
theorem Stripped.valid_of_initial (hstrip : Stripped s p f db db')
    (hsigned : SignedSession C v db s row) (hv : SigVerifier v)
    (hvalid : (chainVerifySessionLocked C parse v env db s).valid = true) {j : EntryRow}
    (hj : j ∈ db.getRange s 0 row.lastSequence)
    (hinit : ∀ r ∈ db.getRange s 0 row.lastSequence, r.sequence ∈ p ↔ r.sequence < j.sequence)
    (hread : env.fails j.sequence .cutover = false)
    (htime : fromNTemporallyOk (readEntryFromStmt true j).timestampNs (cutoverNs v db') = true) :
    (chainVerifySessionLocked C parse v env db' s).valid = true := by
  obtain ⟨row', h⟩ := valid_iff.mp hvalid
  obtain rfl : row' = row := Option.mem_unique h.head hsigned.head
  have hchecks := hsigned.checksSigs hv rfl
  have hchecks' := hsigned.checksSigs hv hstrip.heads
  have hcols : (v.readOnly && v.entrySigCols) = true := by rw [hv.readOnly, hv.entryCols]; rfl
  have hrows : (db.getRange s 0 row'.lastSequence).Pairwise (fun a b => a.sequence < b.sequence) := by
    have horder := HashChain.Linked.pairwise h.linked
    rw [entriesRead, pairwise_map] at horder
    exact horder
  have hsigs := h.sigs
  rw [hchecks, entriesRead, hcols] at hsigs
  obtain ⟨l₁, l₂, hl⟩ := append_of_mem hj
  rw [hl] at hrows
  obtain ⟨-, htail, hcross⟩ := pairwise_append.mp hrows
  have hmem₁ : ∀ r ∈ l₁, r ∈ db.getRange s 0 row'.lastSequence := by
    intro r hr
    rw [hl]
    exact mem_append_left _ hr
  have hmem₂ : ∀ r ∈ j :: l₂, r ∈ db.getRange s 0 row'.lastSequence := by
    intro r hr
    rw [hl]
    exact mem_append_right _ hr
  have hkept : ∀ r ∈ j :: l₂, r.sequence ∉ p ∧ f r = r := by
    intro r hr
    have hnot : r.sequence ∉ p := by
      rw [hinit r (hmem₂ r hr)]
      rcases mem_cons.mp hr with rfl | hr
      · exact Int.lt_irrefl _
      · have := (pairwise_cons.mp htail).1 r hr
        omega
    exact ⟨hnot, hstrip.kept r (mem_sessionRows.mp (mem_getRange.mp (hmem₂ r hr)).1).1 fun hc => hnot hc.2⟩
  have hes : entriesRead v db' s 0 row'.lastSequence =
      l₁.map (fun r => readEntryFromStmt true (f r)) ++ (j :: l₂).map (readEntryFromStmt true) := by
    rw [hstrip.entriesRead_eq, hcols, hl, map_append]
    congr 1
    exact map_congr_left fun r hr => by rw [(hkept r hr).2]
  have hus : ∀ e ∈ l₁.map (fun r => readEntryFromStmt true (f r)), e.chainSig.bytes = [] := by
    intro e he
    obtain ⟨r, hr, rfl⟩ := mem_map.mp he
    rw [hsigned.sig_eq_nil_iff hstrip (hmem₁ r hr), hinit r (hmem₁ r hr)]
    exact hcross r hr j mem_cons_self
  have hss : ∀ e ∈ (j :: l₂).map (readEntryFromStmt true), e.chainSig.bytes ≠ [] ∧
      e.chainSigKeyId.bytes = verifyKeyIdHex C v ∧ entrySigOk C v e = true := by
    intro e he
    obtain ⟨r, hr, rfl⟩ := mem_map.mp he
    have hsig : (readEntryFromStmt true r).chainSig.bytes ≠ [] := by
      have hnil := (hsigned.sig_eq_nil_iff hstrip (hmem₂ r hr)).not.mpr (hkept r hr).1
      rwa [(hkept r hr).2] at hnil
    exact ⟨hsig, hsigs.sig_ok (mem_map_of_mem (hmem₂ r hr)) hsig⟩
  have hseq : ∀ e ∈ (j :: l₂).map (readEntryFromStmt true), 0 ≤ e.sequence := by
    intro e he
    obtain ⟨r, hr, rfl⟩ := mem_map.mp he
    exact (mem_getRange.mp (hmem₂ r hr)).2.1
  obtain ⟨-, hprefixed, hfirst, hns⟩ :=
    walked_split parse env hchecks' hes hus (fun e he => (hss e he).1) hseq
  have hsame : (entriesRead v db' s 0 row'.lastSequence).map Entry.withoutSig =
      (entriesRead v db s 0 row'.lastSequence).map Entry.withoutSig :=
    hstrip.map_withoutSig s 0 row'.lastSequence
  have hlen : (entriesRead v db' s 0 row'.lastSequence).length =
      (entriesRead v db s 0 row'.lastSequence).length := by
    simpa using congrArg List.length (hsame)
  refine valid_iff.mpr ⟨row', h.heads, ?_, ?_, h.nonneg, ?_, ?_, ?_, ?_, ?_, ?_, ?_⟩
  · rw [Db.headGet, hstrip.heads]
    exact hsigned.head
  · have hhead := h.headOk
    simp only [checkHead, keyUnavailable, hsigned.state_eq hv rfl] at hhead
    simpa only [checkHead, keyUnavailable, hsigned.state_eq hv hstrip.heads] using hhead
  · rw [hlen]
    exact h.reads
  · rw [← linkedEntries_withoutSig, hsame, linkedEntries_withoutSig]
    exact h.linked
  · intro e he
    rw [hstrip.entriesRead_eq] at he
    obtain ⟨r, hr, rfl⟩ := mem_map.mp he
    exact (hstrip.authentic_iff _ (mem_sessionRows.mp (mem_getRange.mp hr).1).1).mpr
      (h.authentic _ (mem_map_of_mem hr))
  · rw [hchecks', hes]
    exact sigAcceptedAll_append hus hss
  · rw [hlen]
    exact h.complete
  · rw [← h.last, walked, walked, foldl_expectedPrev, foldl_expectedPrev]
    rw [← tip_withoutSig, hsame, tip_withoutSig]
  · intro _ _
    rw [hfirst, hns]
    exact ⟨hread, htime⟩

end

/-- **Stripped signatures.**  Let every entry of a session and its head be signed, and
the signatures of some entries be removed.  The session is not reported clean; it is
reported broken unless what was removed is an initial segment, ending at a signature
no older than the others of the chain, and then as signed from there on. -/
theorem stripped_session (v : Handle) (hv : SigVerifier v) (env : ReadEnv) {s : Bytes}
    {row : HeadRow} (hsigned : SignedSession C v db s row) {p : Set Int}
    {f : EntryRow → EntryRow} (hstrip : Stripped s p f db db')
    (hne : ∃ r ∈ db.getRange s 0 row.lastSequence, r.sequence ∈ p) :
    (chainVerifySessionLocked C parse v env db' s).validSigned = false ∧
    ((∃ r ∈ db.getRange s 0 row.lastSequence, r.sequence ∉ p) →
      (chainVerifySessionLocked C parse v env db' s).valid = true →
      ∃ j ∈ db.getRange s 0 row.lastSequence,
        (∀ r ∈ db.getRange s 0 row.lastSequence, r.sequence ∈ p ↔ r.sequence < j.sequence) ∧
        (chainVerifySessionLocked C parse v env db' s).sigEra = .fromN ∧
        (chainVerifySessionLocked C parse v env db' s).sigTransitionSeq = j.sequence ∧
        fromNTemporallyOk (readEntryFromStmt true j).timestampNs (cutoverNs v db') = true) ∧
    ((chainVerifySessionLocked C parse v env db s).valid = true →
      ∀ j ∈ db.getRange s 0 row.lastSequence,
        (∀ r ∈ db.getRange s 0 row.lastSequence, r.sequence ∈ p ↔ r.sequence < j.sequence) →
        env.fails j.sequence .cutover = false →
        fromNTemporallyOk (readEntryFromStmt true j).timestampNs (cutoverNs v db') = true →
        (chainVerifySessionLocked C parse v env db' s).valid = true) := by
  refine ⟨?_, ?_, ?_⟩
  · by_contra hclean
    have hvalid := valid_of_validSigned (Bool.eq_true_of_not_eq_false hclean)
    exact hclean (hstrip.of_valid hsigned hv hne hvalid).1
  · intro hrest hvalid
    exact (hstrip.of_valid hsigned hv hne hvalid).2 hrest
  · intro hvalid j hj hinit hread htime
    exact hstrip.valid_of_initial hsigned hv hvalid hj hinit hread htime

namespace Sample

/-- The daemon with the signing seed of 32 bytes `0x0c`. -/
def signer : Handle := { handle with signSeed := some (List.replicate 32 0x0c) }

def publicKey : Bytes :=
  (digestOfHex (text "0b513ad9b4924015ca0902ed079044d3ac5dbec2306f06948c10da8eb6e39f2d")).bytes

/-- A verifier that holds the public key only. -/
def sigVerifier : Handle :=
  { handle with
    haveChainKey := false, readOnly := true, verifyPub := some publicKey, entrySigCols := true,
    headSigCols := true }

/-- A second observation in the session. -/
def secondObservation : AppendCall := { observation with artifactId := text "o2" }

def secondText : Bytes :=
  buildCanonicalJson (populateEntry handle Sample.env secondObservation (text "s1") (1, observationHash))

def secondHash : Bytes :=
  text "e8748eb094762b9c92e8eca78fe97fb706d8a9ba4e62c21f473ac912ab1c62cc"

/-- What is signed for an entry or a head. -/
def sigInput (tag msg : Bytes) : Bytes × Bytes := (List.replicate 32 0x0c, tag ++ 0 :: msg)

/-- SHA-256, HMAC and Ed25519 on the texts of the signed session. -/
def sigCrypto : Crypto := .known
  [(genesisText (text "s1"), genesis),
   (text "interface up", observation.artifactHash),
   (firstText observation, observationHash),
   (secondText, secondHash),
   (publicKey, text "ed23d853125a3acff2782dddf84e018ebc85942ebf328ff1287202a479964207")]
  [((handle.chainKey, firstText observation),
    text "26e7bc543a2a41002b956e6e1928cc168e57c264ce1990c034e011128d74df99"),
   ((handle.chainKey, headCanonical (text "s1") 0 observationHash),
    text "5215a2ec33f8d514454a123b9c92fbf239ab0ab5081e69b57328d01da144435e"),
   ((handle.chainKey, secondText),
    text "564d5ff86de1b9bb33e165de3f928a35208d2b2a5bfc7355705eba066d533f04"),
   ((handle.chainKey, headCanonical (text "s1") 1 secondHash),
    text "a91995f1b0eb1eed6ded1cb4adc926e622ac3106f7fea6269c7da79e5c209a8a")]
  [(List.replicate 32 0x0c, text "0b513ad9b4924015ca0902ed079044d3ac5dbec2306f06948c10da8eb6e39f2d")]
  [(sigInput tagEntry (firstText observation),
    text "53396d265f87c67c5d09bdef91cc60cd223371e8a4750e99a8bb45a8e16f7d29" ++
    text "ae6e36eb1bd8605d0c6a6c05d7d0ce0b21078b91a2f9466342d8a491086bdc05"),
   (sigInput tagHead (headCanonical (text "s1") 0 observationHash),
    text "224faef884a982bb356c121b50d5d5643ce89ce19a6d2b726260068c65ec1cb5" ++
    text "dadc27e985379d4ab4a94f8dd8680c164c6c147cd17014c4d24a6816e5900000"),
   (sigInput tagEntry secondText,
    text "77e2128c143be071512f939cf31328e9514b65bc8801152c5a131d166533f279" ++
    text "b7e225ac3d31956176c05e171e0743757b0e4b75049b25b310e9483aa181c206"),
   (sigInput tagHead (headCanonical (text "s1") 1 secondHash),
    text "a192d06c0cec4ef9c76e4b6152070a37f2b669468d5bfd0bd2ac178e43bfcc47" ++
    text "eab3e686b5d9a11df704e830dfecdc5e06368069240266661dc5551b6511c400")]

def sigOps : List ChainOp :=
  [.append signer Sample.env observation, .append signer Sample.env secondObservation]

/-- Removing the signature of the first entry. -/
def unsignFirst (r : EntryRow) : EntryRow := if r.sequence = 0 then r.unsigned else r

def strippedFirst (db : Db) : Db :=
  { db with entries := (db.entries.rows.map unsignFirst).foldl Table.insertOrIgnore .empty }

/-- What the signed run leaves, and what the removal makes of it. -/
theorem sig_run : (∀ row ∈ (run sigCrypto sigOps).store.committed.headGet (text "s1"),
      cstr (row.headSig.getD []) ≠ [] ∧
      snprintfS 33 (row.headSigKeyId.getD []) = verifyKeyIdHex sigCrypto sigVerifier ∧
      ((run sigCrypto sigOps).store.committed.getRange (text "s1") 0 row.lastSequence).map
        EntryRow.sequence = [0, 1]) ∧
    ((run sigCrypto sigOps).store.committed.headGet (text "s1")).isSome ∧
    (∀ r ∈ (run sigCrypto sigOps).store.committed.entries.rows, cstr (r.chainSig.getD []) ≠ []) ∧
    (strippedFirst (run sigCrypto sigOps).store.committed).entries.rows =
      (run sigCrypto sigOps).store.committed.entries.rows.map unsignFirst ∧
    (chainVerifySessionLocked sigCrypto parseCitation sigVerifier readEnv
      (run sigCrypto sigOps).store.committed (text "s1")).validSigned = true ∧
    (chainVerifySessionLocked sigCrypto parseCitation sigVerifier readEnv
      (strippedFirst (run sigCrypto sigOps).store.committed) (text "s1")).valid = true ∧
    ∀ r ∈ (run sigCrypto sigOps).store.committed.entries.rows, r.sessionId = text "s1" := by
  decide +kernel

theorem sigVerifier_sigVerifier : SigVerifier sigVerifier := ⟨rfl, rfl, rfl, rfl⟩

theorem signedSession_run : ∃ row,
    SignedSession sigCrypto sigVerifier (run sigCrypto sigOps).store.committed (text "s1") row ∧
    ((run sigCrypto sigOps).store.committed.getRange (text "s1") 0 row.lastSequence).map
      EntryRow.sequence = [0, 1] := by
  obtain ⟨hhead, hsome, hsigs, -⟩ := sig_run
  obtain ⟨row, hrow⟩ := Option.isSome_iff_exists.mp hsome
  obtain ⟨h1, h2, h3⟩ := hhead row hrow
  refine ⟨row, ⟨hrow, h1, h2, fun r hr => ?_⟩, h3⟩
  exact hsigs r (mem_sessionRows.mp (mem_getRange.mp hr).1).1

theorem stripped_unsignFirst (hs : ∀ r ∈ db.entries.rows, r.sessionId = text "s1")
    (hrows : (strippedFirst db).entries.rows = db.entries.rows.map unsignFirst) :
    Stripped (text "s1") {0} unsignFirst db (strippedFirst db) := by
  refine ⟨rfl, rfl, hrows, fun r _ => ?_, fun r _ _ hp => ?_, fun r hr hp => ?_⟩
  · unfold unsignFirst
    split_ifs <;> rfl
  · rw [unsignFirst, if_pos (Set.mem_singleton_iff.mp hp)]
    rfl
  · exact if_neg fun h0 => hp ⟨hs r hr, h0⟩

theorem stripped_run : Stripped (text "s1") {0} unsignFirst (run sigCrypto sigOps).store.committed
    (strippedFirst (run sigCrypto sigOps).store.committed) :=
  stripped_unsignFirst sig_run.2.2.2.2.2.2 sig_run.2.2.2.1

end Sample

open Sample

/-- The first signature of two is removed: the session is not clean. -/
theorem stripped_session_first :
    (chainVerifySessionLocked sigCrypto parseCitation sigVerifier readEnv
      (run sigCrypto sigOps).store.committed (text "s1")).validSigned = true ∧
    (chainVerifySessionLocked sigCrypto parseCitation sigVerifier readEnv
      (strippedFirst (run sigCrypto sigOps).store.committed) (text "s1")).validSigned = false := by
  obtain ⟨row, hsigned, hseqs⟩ := signedSession_run
  have hne : ∃ r ∈ (run sigCrypto sigOps).store.committed.getRange (text "s1") 0
      row.lastSequence, r.sequence ∈ ({0} : Set Int) := by
    have hmem : (0 : Int) ∈ ((run sigCrypto sigOps).store.committed.getRange (text "s1") 0
        row.lastSequence).map sequence := by
      rw [hseqs]
      exact mem_cons_self
    obtain ⟨r, hr, h0⟩ := mem_map.mp hmem
    exact ⟨r, hr, h0⟩
  exact ⟨sig_run.2.2.2.2.1, (stripped_session sigVerifier sigVerifier_sigVerifier
    readEnv hsigned stripped_run hne).1⟩

/-- Both entries and the head of a session are signed and the first signature is then
removed: the session is still reported valid. -/
theorem stripped_first_signature_valid :
    SigVerifier sigVerifier ∧
    (∃ row, SignedSession sigCrypto sigVerifier
        (run sigCrypto sigOps).store.committed (text "s1") row ∧
      ((run sigCrypto sigOps).store.committed.getRange (text "s1") 0
        row.lastSequence).map EntryRow.sequence = [0, 1]) ∧
    Stripped (text "s1") {0} unsignFirst
      (run sigCrypto sigOps).store.committed
      (strippedFirst (run sigCrypto sigOps).store.committed) ∧
    (chainVerifySessionLocked sigCrypto parseCitation sigVerifier readEnv
      (strippedFirst (run sigCrypto sigOps).store.committed) (text "s1")).valid = true :=
  ⟨sigVerifier_sigVerifier, signedSession_run, stripped_run,
    sig_run.2.2.2.2.2.1⟩

end Virp
