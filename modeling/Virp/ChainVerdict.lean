import Virp.ChainVerify
import Virp.Library.HashChain

/-! # What a verdict means

The verifier's code decides one entry at a time and threads its counters along.
Here its verdict is restated as a property of the list of entries it read:
`walkEntries_ok_iff` for the walk, `valid_iff` for a session.  Results about the
verifier use these and never unfold the walk.

The entries of an accepted walk are linked (`HashChain.Linked`) and each of them is
`Authentic`: its hash and MAC are right, its body is not broken and its evidence
record agrees.  Whether its signature is acceptable (`SigAccepted`) depends on the
entries before it only through how many of them were signed.
-/
namespace Virp

open List Walk

variable {C : Crypto} {parse : Bytes → Option Json} {v : Handle} {env : ReadEnv} {db : Db}

/-! ## One step -/

/-- The evidence grading finds nothing wrong with the entry. -/
def evidenceOk (parse : Bytes → Option Json) (env : ReadEnv) (db : Db) (e : Entry) : Bool :=
  if e.artifactType.bytes = text "gate_intent" then
    match gradeIntent parse env db e (evidenceBody env db e) with
    | .broken _ => false
    | _ => true
  else if typeIsCloser e.artifactType.bytes then
    (gradeCloser parse env db e (evidenceBody env db e)).isNone
  else true

/-- The stored body does not contradict the entry. -/
def bindingOk (C : Crypto) (env : ReadEnv) (db : Db) (e : Entry) : Bool :=
  match verifyBinding C env db e with
  | .bound | .unverifiable => true
  | .broken | .unreadable => false

/-- Hash, MAC, body and evidence of an entry are right. -/
structure Authentic (C : Crypto) (parse : Bytes → Option Json) (v : Handle) (env : ReadEnv) (db : Db)
    (e : Entry) : Prop where
  short : (buildCanonicalJson e).length < 2048
  hash_eq : C.sha256Hex (buildCanonicalJson e) = e.chainEntryHash.bytes
  hmac_eq : v.haveChainKey = true → env.fails e.sequence .hmac = false ∧
    C.hmacSha256Hex v.chainKey (buildCanonicalJson e) = e.chainHmac.bytes
  binding : bindingOk C env db e = true
  evidence : evidenceOk parse env db e = true

/-- The entries are linked from a sequence number and a hash on. -/
def LinkedEntries (seq : Int) (prev : Bytes) (es : List Entry) : Prop :=
  HashChain.Linked Entry.sequence (fun e => e.previousEntryHash.bytes)
    (fun e => e.chainEntryHash.bytes) seq prev es

/-- The entry's signature is acceptable after `signed` signed entries. -/
def SigAccepted (C : Crypto) (v : Handle) (checkSigs : Bool) (signed : Int) (e : Entry) : Prop :=
  checkSigs = true →
    (e.chainSig.bytes = [] → signed = 0) ∧
    (e.chainSig.bytes ≠ [] → e.chainSigKeyId.bytes = verifyKeyIdHex C v ∧ entrySigOk C v e = true)

/-- The counters after an accepted signature. -/
def Walk.countSig (v : Handle) (checkSigs : Bool) (w : Walk) (e : Entry) : Walk :=
  if checkSigs then
    if e.chainSig.bytes = [] then { countUnsigned w e with unsignedPrefix := true }
    else { w with
      firstSignedSeq := if w.firstSignedSeq < 0 then e.sequence else w.firstSignedSeq
      firstSignedNs := if w.firstSignedSeq < 0 then e.timestampNs else w.firstSignedNs
      entriesSigned := w.entriesSigned + 1 }
  else if verifySigEnabled v ∧ e.chainSig.bytes = [] then countUnsigned w e
  else w

/-- The counters after an accepted body. -/
def Walk.countBinding (C : Crypto) (env : ReadEnv) (db : Db) (w : Walk) (e : Entry) : Walk :=
  if verifyBinding C env db e = .bound then { w with artifactsBound := w.artifactsBound + 1 }
  else { w with artifactsUnverifiable := w.artifactsUnverifiable + 1 }

/-- The verifier counts the intent as a closed execution. -/
def countedClosed (parse : Bytes → Option Json) (env : ReadEnv) (db : Db) (e : Entry) : Bool :=
  e.artifactType.bytes == text "gate_intent" &&
    gradeIntent parse env db e (evidenceBody env db e) == .isClosed

/-- The counters after accepted evidence. -/
def Walk.countEvidence (parse : Bytes → Option Json) (env : ReadEnv) (db : Db) (w : Walk) (e : Entry) :
    Walk :=
  if e.artifactType.bytes = text "gate_intent" then
    if countedClosed parse env db e then { w with executionsClosed := w.executionsClosed + 1 }
    else { w with executionsOpen := w.executionsOpen + 1 }
  else w

/-- The counters after an accepted entry. -/
def Walk.next (C : Crypto) (parse : Bytes → Option Json) (v : Handle) (env : ReadEnv) (db : Db)
    (checkSigs : Bool) (w : Walk) (e : Entry) : Walk :=
  let w := ((w.countSig v checkSigs e).countBinding C env db e).countEvidence parse env db e
  { w with
    expectedPrev := e.chainEntryHash.bytes
    expectedSeq := w.expectedSeq + 1
    entriesChecked := w.entriesChecked + 1 }

theorem checkEntry_ok_iff {w : Walk} {e : Entry} : checkEntry C v env w e = .ok () ↔
      e.sequence = w.expectedSeq ∧ e.previousEntryHash.bytes = w.expectedPrev ∧
      (buildCanonicalJson e).length < 2048 ∧
      C.sha256Hex (buildCanonicalJson e) = e.chainEntryHash.bytes ∧
      (v.haveChainKey = true → env.fails e.sequence .hmac = false ∧
        C.hmacSha256Hex v.chainKey (buildCanonicalJson e) = e.chainHmac.bytes) := by
  unfold checkEntry
  by_cases h1 : e.sequence = w.expectedSeq
  swap; · simp [h1]
  by_cases h2 : e.previousEntryHash.bytes = w.expectedPrev
  swap; · simp [h1, h2]
  by_cases h3 : 2048 ≤ (buildCanonicalJson e).length
  · simp [h1, h2, h3, Nat.not_lt_of_le h3]
  have h3' : (buildCanonicalJson e).length < 2048 := by omega
  by_cases h4 : C.sha256Hex (buildCanonicalJson e) = e.chainEntryHash.bytes
  swap; · simp [h1, h2, h3, h4]
  cases hk : v.haveChainKey with
  | false => simp [h1, h2, h3, h3', h4]
  | true =>
    cases hf : env.fails e.sequence .hmac with
    | true => simp [h1, h2, h3, h3', h4]
    | false => simp [h1, h2, h3, h3', h4]

variable {w' : Walk} {r : VerifyResult} {lo hi n : Int} {s : Bytes} {unavailable : Bool}
  {hd : HeadRead} {row : HeadRow}

theorem gradeSignature_ok_iff {checkSigs : Bool} {w : Walk} {e : Entry} :
    gradeSignature C v checkSigs w e = .ok w' ↔
      SigAccepted C v checkSigs w.entriesSigned e ∧ w.countSig v checkSigs e = w' := by
  unfold gradeSignature SigAccepted countSig
  cases checkSigs with
  | false => by_cases h : verifySigEnabled v = true ∧ e.chainSig.bytes = [] <;> simp [h]
  | true =>
    by_cases hsig : e.chainSig.bytes = []
    · by_cases hs : w.entriesSigned = 0 <;> simp [hsig, hs]
    · by_cases hk : e.chainSigKeyId.bytes = verifyKeyIdHex C v
      · cases ho : entrySigOk C v e <;> simp [hsig, hk]
      · simp [hsig, hk]

theorem gradeBinding_ok_iff {w : Walk} {e : Entry} : gradeBinding C env db w e = .ok w' ↔
      bindingOk C env db e = true ∧ w.countBinding C env db e = w' := by
  unfold gradeBinding bindingOk countBinding
  cases verifyBinding C env db e <;> simp

theorem gradeEvidence_ok_iff {w : Walk} {e : Entry} : gradeEvidence parse env db w e = .ok w' ↔
      evidenceOk parse env db e = true ∧ w.countEvidence parse env db e = w' := by
  unfold gradeEvidence evidenceOk countEvidence countedClosed
  by_cases hi : e.artifactType.bytes = text "gate_intent"
  · simp only [hi, if_true]
    cases gradeIntent parse env db e (evidenceBody env db e) <;> simp
  · simp only [hi, if_false]
    by_cases hc : typeIsCloser e.artifactType.bytes = true
    · simp only [hc, if_true]
      cases gradeCloser parse env db e (evidenceBody env db e) <;> simp
    · simp [hc]

/-- **One step of the walk.**  It succeeds exactly on an accepted entry with an
acceptable signature, and hands on the counters. -/
theorem walkStep_ok_iff {checkSigs : Bool} {w : Walk} {e : Entry} :
    walkStep C parse v env db checkSigs w e = .ok w' ↔
      (e.sequence = w.expectedSeq ∧ e.previousEntryHash.bytes = w.expectedPrev ∧
        Authentic C parse v env db e) ∧ SigAccepted C v checkSigs w.entriesSigned e ∧
      w.next C parse v env db checkSigs e = w' := by
  constructor
  · intro h
    obtain ⟨_, hcheck, h⟩ := bind_ok.mp h
    obtain ⟨w₁, hsig, h⟩ := bind_ok.mp h
    obtain ⟨w₂, hbind, h⟩ := bind_ok.mp h
    obtain ⟨w₃, hevid, h⟩ := bind_ok.mp h
    obtain ⟨h1, h2, h3, h4, h5⟩ := checkEntry_ok_iff.mp hcheck
    obtain ⟨hs, rfl⟩ := gradeSignature_ok_iff.mp hsig
    obtain ⟨hb, rfl⟩ := gradeBinding_ok_iff.mp hbind
    obtain ⟨he, rfl⟩ := gradeEvidence_ok_iff.mp hevid
    exact ⟨⟨h1, h2, h3, h4, h5, hb, he⟩, hs, Except.ok.inj h⟩
  · rintro ⟨⟨hseq, hprev, ha⟩, hsig, rfl⟩
    have hcheck : checkEntry C v env w e = .ok () :=
      checkEntry_ok_iff.mpr ⟨hseq, hprev, ha.short, ha.hash_eq, ha.hmac_eq⟩
    unfold walkStep
    rw [hcheck]
    simp only [Except.bind, bind, gradeSignature_ok_iff.mpr ⟨hsig, rfl⟩,
      gradeBinding_ok_iff.mpr ⟨ha.binding, rfl⟩, gradeEvidence_ok_iff.mpr ⟨ha.evidence, rfl⟩]
    rfl

section
variable {checkSigs : Bool} {w : Walk} {e : Entry}

@[simp] theorem Walk.next_expectedSeq :
    (w.next C parse v env db checkSigs e).expectedSeq = w.expectedSeq + 1 := by
  simp only [next, countEvidence, countBinding, countSig, countUnsigned]
  split_ifs <;> rfl

@[simp] theorem Walk.next_expectedPrev :
    (w.next C parse v env db checkSigs e).expectedPrev = e.chainEntryHash.bytes := rfl

@[simp] theorem Walk.next_entriesChecked :
    (w.next C parse v env db checkSigs e).entriesChecked = w.entriesChecked + 1 := by
  simp only [next, countEvidence, countBinding, countSig, countUnsigned]
  split_ifs <;> rfl

/-- Only the signature grading touches the signature counters. -/
theorem Walk.next_sig :
    (w.next C parse v env db checkSigs e).entriesSigned = (w.countSig v checkSigs e).entriesSigned ∧
    (w.next C parse v env db checkSigs e).entriesUnsigned =
      (w.countSig v checkSigs e).entriesUnsigned ∧
    (w.next C parse v env db checkSigs e).unsignedPrefix =
      (w.countSig v checkSigs e).unsignedPrefix ∧
    (w.next C parse v env db checkSigs e).firstSignedSeq =
      (w.countSig v checkSigs e).firstSignedSeq ∧
    (w.next C parse v env db checkSigs e).firstSignedNs =
      (w.countSig v checkSigs e).firstSignedNs := by
  simp only [next, countEvidence, countBinding]
  split_ifs <;> exact ⟨rfl, rfl, rfl, rfl, rfl⟩

theorem Walk.next_entriesSigned : (w.next C parse v env db checkSigs e).entriesSigned =
      w.entriesSigned + if checkSigs = true ∧ e.chainSig.bytes ≠ [] then 1 else 0 := by
  rw [next_sig.1, countSig]
  cases checkSigs with
  | false =>
    simp only [Bool.false_eq_true, if_false, false_and, Int.add_zero, countUnsigned]
    split_ifs <;> rfl
  | true => by_cases h : e.chainSig.bytes = [] <;> simp [h, countUnsigned]

theorem Walk.countSig_executionsClosed :
    (w.countSig v checkSigs e).executionsClosed = w.executionsClosed := by
  simp only [countSig, countUnsigned]
  split_ifs <;> rfl

theorem Walk.countBinding_executionsClosed :
    (w.countBinding C env db e).executionsClosed = w.executionsClosed := by
  unfold countBinding
  split <;> rfl

/-- Only the evidence grading touches the counter of closed executions. -/
theorem Walk.countEvidence_executionsClosed : (w.countEvidence parse env db e).executionsClosed =
      w.executionsClosed + if countedClosed parse env db e then 1 else 0 := by
  unfold countEvidence
  by_cases hi : e.artifactType.bytes = text "gate_intent"
  · rw [if_pos hi]
    split
    · rfl
    · exact (Int.add_zero _).symm
  · have hc : countedClosed parse env db e = false := by simp [countedClosed, hi]
    rw [if_neg hi, hc]
    exact (Int.add_zero _).symm

theorem Walk.next_executionsClosed : (w.next C parse v env db checkSigs e).executionsClosed =
      w.executionsClosed + if countedClosed parse env db e then 1 else 0 := by
  change (((w.countSig v checkSigs e).countBinding C env db e).countEvidence
    parse env db e).executionsClosed = _
  rw [countEvidence_executionsClosed, countBinding_executionsClosed,
    countSig_executionsClosed]

end

/-! ## The whole walk -/

/-- The entries' signatures are acceptable one after the other. -/
def SigAcceptedAll (C : Crypto) (v : Handle) (checkSigs : Bool) : Int → List Entry → Prop
  | _, [] => True
  | signed, e :: es =>
    SigAccepted C v checkSigs signed e ∧
      SigAcceptedAll C v checkSigs
        (signed + if checkSigs = true ∧ e.chainSig.bytes ≠ [] then 1 else 0) es

/-- The statement of the walk delivers `n` rows and then its end. -/
def WalkReads (env : ReadEnv) (seq : Int) (n : Nat) : Prop :=
  ∀ i : Nat, i ≤ n → env.fails (seq + i) .walk = false

theorem walkReads_succ {seq : Int} {n : Nat} :
    WalkReads env seq (n + 1) ↔ env.fails seq .walk = false ∧ WalkReads env (seq + 1) n := by
  constructor
  · intro h
    refine ⟨by simpa using h 0 (Nat.zero_le _), ?_⟩
    intro i hi
    have := h (i + 1) (by omega)
    rwa [show seq + ((i + 1 : Nat) : Int) = seq + 1 + (i : Int) by omega] at this
  · rintro ⟨h0, h⟩ i hi
    cases i with
    | zero => simpa using h0
    | succ i =>
      rw [show seq + ((i + 1 : Nat) : Int) = seq + 1 + (i : Int) by omega]
      exact h i (by omega)

/-- **The walk over a list of entries.**  It succeeds exactly when every row is
delivered, every entry is accepted in its place and every signature is
acceptable; its counters are then the fold of the step's. -/
theorem walkEntries_ok_iff {checkSigs : Bool} {w : Walk} {es : List Entry} :
    walkEntries C parse v env db checkSigs w es = .ok w' ↔ WalkReads env w.expectedSeq es.length ∧
      LinkedEntries w.expectedSeq w.expectedPrev es ∧ (∀ e ∈ es, Authentic C parse v env db e) ∧
      SigAcceptedAll C v checkSigs w.entriesSigned es ∧
      es.foldl (Walk.next C parse v env db checkSigs) w = w' := by
  induction es generalizing w with
  | nil =>
    have hr : WalkReads env w.expectedSeq 0 ↔ env.fails w.expectedSeq .walk = false := by
      simp [WalkReads]
    cases hf : env.fails w.expectedSeq .walk <;>
      simp [walkEntries, hf, hr, LinkedEntries, HashChain.Linked, SigAcceptedAll]
  | cons e es ih =>
    rw [length_cons, walkReads_succ]
    unfold walkEntries
    cases hf : env.fails w.expectedSeq .walk with
    | true => simp
    | false =>
      simp only [Bool.false_eq_true, if_false, LinkedEntries, HashChain.Linked, SigAcceptedAll,
        foldl_cons, forall_mem_cons, true_and]
      constructor
      · intro h
        obtain ⟨w₁, hstep, hrest⟩ := bind_ok.mp h
        obtain ⟨⟨hseq, hprev, ha⟩, hs, rfl⟩ := walkStep_ok_iff.mp hstep
        obtain ⟨h1, h2, h3, h4, h5⟩ := ih.mp hrest
        rw [next_entriesSigned] at h4
        rw [next_expectedSeq] at h1 h2
        exact ⟨h1, ⟨hseq, hprev, h2⟩, ⟨ha, h3⟩, ⟨hs, h4⟩, h5⟩
      · rintro ⟨h1, ⟨hseq, hprev, h2⟩, ⟨ha, h3⟩, ⟨hs, h4⟩, h5⟩
        rw [walkStep_ok_iff.mpr ⟨⟨hseq, hprev, ha⟩, hs, rfl⟩]
        refine ih.mpr ⟨?_, ?_, h3, ?_, h5⟩
        · rwa [next_expectedSeq]
        · rwa [next_expectedSeq]
        · rwa [next_entriesSigned]

section
variable {checkSigs : Bool}

variable (es : List Entry)

theorem foldl_entriesChecked (w : Walk) :
    (es.foldl (Walk.next C parse v env db checkSigs) w).entriesChecked =
      w.entriesChecked + es.length := by
  induction es generalizing w with
  | nil => simp
  | cons e es ih =>
    rw [foldl_cons, ih, next_entriesChecked, length_cons]
    omega

/-- The walk ends with the hash of the last entry. -/
theorem foldl_expectedPrev (w : Walk) :
    (es.foldl (Walk.next C parse v env db checkSigs) w).expectedPrev =
      HashChain.tip (fun e : Entry => e.chainEntryHash.bytes) w.expectedPrev es := by
  rcases eq_nil_or_concat es with rfl | ⟨es, e, rfl⟩
  · rfl
  · simp

theorem foldl_entriesSigned (w : Walk) :
    (es.foldl (Walk.next C parse v env db checkSigs) w).entriesSigned =
      w.entriesSigned + es.countP (fun e => checkSigs && e.chainSig.bytes != []) := by
  induction es generalizing w with
  | nil => simp
  | cons e es ih =>
    rw [foldl_cons, ih, next_entriesSigned, countP_cons]
    cases checkSigs <;> by_cases h : e.chainSig.bytes = [] <;> (simp [h]; try omega)

/-- Without signature grading there is no unsigned prefix. -/
theorem foldl_unsignedPrefix (w : Walk) :
    (es.foldl (Walk.next C parse v env db false) w).unsignedPrefix = w.unsignedPrefix := by
  induction es generalizing w with
  | nil => rfl
  | cons e es ih =>
    rw [foldl_cons, ih, next_sig.2.2.1, countSig]
    simp only [Bool.false_eq_true, if_false, countUnsigned]
    split_ifs <;> rfl

theorem sigAcceptedAll_false (signed : Int) (es : List Entry) :
    SigAcceptedAll C v false signed es := by
  induction es generalizing signed with
  | nil => trivial
  | cons e es ih => exact ⟨fun h => absurd h Bool.false_ne_true, ih _⟩

/-- The number of intents counted as closed executions. -/
theorem foldl_executionsClosed (w : Walk) :
    (es.foldl (Walk.next C parse v env db checkSigs) w).executionsClosed =
      w.executionsClosed + es.countP (countedClosed parse env db) := by
  induction es generalizing w with
  | nil => simp
  | cons e es ih =>
    rw [foldl_cons, ih, next_executionsClosed, countP_cons]
    cases countedClosed parse env db e with
    | false => simp
    | true => simp only [if_true]; omega

end

/-! ## The session -/

section
variable (C parse v env db)

/-- The counters after a walk over a whole session of which `n` is the last
sequence number. -/
def walked (s : Bytes) (n : Int) : Walk :=
  (entriesRead v db s 0 n).foldl (Walk.next C parse v env db (checksSigs C v db s))
    (.start 0 (computeGenesisHash C env.stack s))

/-- An unsigned prefix, if there is one, ends where signing began on this chain. -/
def CutoverOk (w : Walk) : Prop :=
  w.unsignedPrefix = true → 0 < w.firstSignedSeq →
    env.fails w.firstSignedSeq .cutover = false ∧
      fromNTemporallyOk w.firstSignedNs (cutoverNs v db) = true

/-- What a valid verdict on a range says: its rows are all there, each accepted in its place after
the hash `prev`, and signatures are missing at most before the signing cutover. -/
structure RangeAccepted (s : Bytes) (lo hi : Int) (prev : Bytes) : Prop where
  nonneg : 0 ≤ lo
  le : lo ≤ hi
  first : expectedFirst C env db s lo = some prev
  reads : WalkReads env lo (entriesRead v db s lo hi).length
  linked : LinkedEntries lo prev (entriesRead v db s lo hi)
  authentic : ∀ e ∈ entriesRead v db s lo hi, Authentic C parse v env db e
  sigs : SigAcceptedAll C v (checksSigs C v db s) 0 (entriesRead v db s lo hi)
  complete : ((entriesRead v db s lo hi).length : Int) = hi - lo + 1
  cutover : CutoverOk v env db ((entriesRead v db s lo hi).foldl
    (Walk.next C parse v env db (checksSigs C v db s)) (.start lo prev))

/-- **What a valid verdict on a session says.**  The head is authentic, the rows
it commits to are all there, each accepted in its place, the last is the one the
head names, and signatures are missing at most before the signing cutover. -/
structure SessionValid (s : Bytes) (row : HeadRow) : Prop where
  heads : v.legacyNoHeads = false
  head : db.headGet s = some row
  headOk : checkHead C v env db s (readHead v row) (keyUnavailable C v db s) = none
  nonneg : 0 ≤ row.lastSequence
  reads : WalkReads env 0 (entriesRead v db s 0 row.lastSequence).length
  linked : LinkedEntries 0 (computeGenesisHash C env.stack s) (entriesRead v db s 0 row.lastSequence)
  authentic : ∀ e ∈ entriesRead v db s 0 row.lastSequence, Authentic C parse v env db e
  sigs : SigAcceptedAll C v (checksSigs C v db s) 0 (entriesRead v db s 0 row.lastSequence)
  complete : ((entriesRead v db s 0 row.lastSequence).length : Int) = row.lastSequence + 1
  last : (walked C parse v env db s row.lastSequence).expectedPrev = (readHead v row).hash.bytes
  cutover : CutoverOk v env db (walked C parse v env db s row.lastSequence)

end

theorem gradeCutover_valid {w : Walk} (hr : r.valid = true) :
    (gradeCutover v env db w r).valid = true ↔ CutoverOk v env db w := by
  unfold gradeCutover CutoverOk
  split_ifs <;> simp_all

@[simp] theorem gradeCutover_rc {w : Walk} : (gradeCutover v env db w r).rc = r.rc := by
  unfold gradeCutover
  split_ifs <;> rfl

@[simp] theorem gradeCutover_entriesSigned {w : Walk} :
    (gradeCutover v env db w r).entriesSigned = r.entriesSigned := by
  unfold gradeCutover
  split_ifs <;> rfl

theorem gradeCompleteness_valid {w : Walk} : (gradeCompleteness w lo hi r).valid = true ↔
      r.valid = true ∧ w.entriesChecked = hi - lo + 1 := by
  unfold gradeCompleteness
  split_ifs with h
  · simp [h.2]
  by_cases hv : r.valid = true
  · simp only [hv, true_and, Decidable.not_not] at h ⊢
    simp [h]
  · simp [hv]

theorem gradeCompleteness_of_valid {w : Walk} (h : (gradeCompleteness w lo hi r).valid = true) :
    gradeCompleteness w lo hi r = r := by
  unfold gradeCompleteness
  rw [if_neg]
  rintro ⟨-, hne⟩
  exact hne (gradeCompleteness_valid.mp h).2

/-- **The range walk.** -/
theorem chainVerifyLocked_range_iff : (chainVerifyLocked C parse v env db s lo hi).1.valid = true ↔
      ∃ prev, RangeAccepted C parse v env db s lo hi prev := by
  unfold chainVerifyLocked
  by_cases hrange : lo < 0 ∨ hi < lo
  · simp only [if_pos hrange, Bool.false_eq_true, false_iff]
    rintro ⟨prev, h⟩
    have h0 := h.nonneg
    have hle := h.le
    omega
  simp only [if_neg hrange]
  cases hp : expectedFirst C env db s lo with
  | none =>
    simp only [Bool.false_eq_true, false_iff]
    rintro ⟨prev, h⟩
    exact absurd (hp.symm.trans h.first) (by simp)
  | some prev =>
    dsimp only
    cases hw : walkEntries C parse v env db (checksSigs C v db s) (.start lo prev)
        (entriesRead v db s lo hi) with
    | error f =>
      simp only [Bool.false_eq_true, false_iff]
      rintro ⟨prev', h⟩
      obtain rfl := Option.mem_unique hp h.first
      rw [walkEntries_ok_iff.mpr ⟨h.reads, h.linked, h.authentic, h.sigs, rfl⟩] at hw
      cases hw
    | ok w =>
      obtain ⟨h1, h2, h3, h4, rfl⟩ := walkEntries_ok_iff.mp hw
      simp only [gradeCompleteness_valid, gradeCutover_valid, result, foldl_entriesChecked,
        start, Int.zero_add]
      constructor
      · rintro ⟨hc, hlen⟩
        exact ⟨prev, by omega, by omega, hp, h1, h2, h3, h4, hlen, hc⟩
      · rintro ⟨prev', h⟩
        obtain rfl := Option.mem_unique hp h.first
        exact ⟨h.cutover, h.complete⟩

/-- The range walk from the first entry. -/
theorem chainVerifyLocked_valid_iff : (chainVerifyLocked C parse v env db s 0 n).1.valid = true ↔
      0 ≤ n ∧ WalkReads env 0 (entriesRead v db s 0 n).length ∧
      LinkedEntries 0 (computeGenesisHash C env.stack s) (entriesRead v db s 0 n) ∧
      (∀ e ∈ entriesRead v db s 0 n, Authentic C parse v env db e) ∧
      SigAcceptedAll C v (checksSigs C v db s) 0 (entriesRead v db s 0 n) ∧
      ((entriesRead v db s 0 n).length : Int) = n + 1 ∧
      CutoverOk v env db (walked C parse v env db s n) := by
  have hfirst : expectedFirst C env db s 0 = some (computeGenesisHash C env.stack s) := rfl
  rw [chainVerifyLocked_range_iff]
  constructor
  · rintro ⟨prev, h⟩
    obtain rfl := Option.mem_unique hfirst h.first
    have hlen := h.complete
    exact ⟨h.le, h.reads, h.linked, h.authentic, h.sigs, by omega, h.cutover⟩
  · rintro ⟨hn, hreads, hlinked, hauth, hsigs, hlen, hcut⟩
    exact ⟨_, Int.le_refl 0, hn, hfirst, hreads, hlinked, hauth, hsigs, by omega, hcut⟩

/-- The result of a valid walk over a session, before the era decision. -/
def walkedResult (C : Crypto) (parse : Bytes → Option Json) (v : Handle) (env : ReadEnv) (db : Db)
    (s : Bytes) (n : Int) : VerifyResult :=
  gradeCutover v env db (walked C parse v env db s n)
    ((walked C parse v env db s n).result { VerifyResult.blank with
      fromSequence := 0, toSequence := n, firstUnsigned := -1, sigTransitionSeq := -1,
      valid := true, hmacChecked := v.haveChainKey, sigChecked := checksSigs C v db s })

/-- What a valid range walk hands to the session verdict. -/
theorem chainVerifyLocked_of_valid (h : (chainVerifyLocked C parse v env db s 0 n).1.valid = true) :
    (chainVerifyLocked C parse v env db s 0 n).1 = walkedResult C parse v env db s n ∧
    (chainVerifyLocked C parse v env db s 0 n).2 = (walked C parse v env db s n).expectedPrev := by
  obtain ⟨hn, h1, h2, h3, h4, -, -⟩ := chainVerifyLocked_valid_iff.mp h
  have hw : walkEntries C parse v env db (checksSigs C v db s)
      (.start 0 (computeGenesisHash C env.stack s)) (entriesRead v db s 0 n) =
        .ok (walked C parse v env db s n) := walkEntries_ok_iff.mpr ⟨h1, h2, h3, h4, rfl⟩
  have hrange : ¬((0 : Int) < 0 ∨ n < 0) := by omega
  unfold chainVerifyLocked at h ⊢
  simp only [if_neg hrange, expectedFirst, if_true, hw] at h ⊢
  exact ⟨gradeCompleteness_of_valid h, trivial⟩

theorem walked_entriesSigned : (walked C parse v env db s n).entriesSigned =
      (entriesRead v db s 0 n).countP (fun e => checksSigs C v db s && e.chainSig.bytes != []) := by
  rw [walked, foldl_entriesSigned]
  simp [start]

/-- The era decision never clears the verdict of an authenticated head: a session
with signed entries is refused earlier when its head is not signed. -/
theorem gradeEra_valid {headSigned : Bool} (h0 : 0 ≤ r.entriesSigned)
    (hs : 0 < r.entriesSigned → headSigned = true) :
    (gradeEra v headSigned unavailable r).valid = r.valid := by
  unfold gradeEra
  cases headSigned with
  | true => split_ifs <;> simp_all
  | false =>
    have hzero : r.entriesSigned = 0 := by
      by_contra hne
      exact Bool.false_ne_true (hs (by omega))
    split_ifs <;> simp_all

theorem headIsSigned_of_checkHead (h : checkHead C v env db s hd unavailable = none)
    (hc : checksSigs C v db s = true) : headIsSigned v hd = true := by
  unfold checkHead at h
  unfold checksSigs at hc
  simp only [Bool.and_eq_true] at hc
  by_contra hne
  rw [if_pos (by simp [hc.1.1.1, hc.1.2, hne])] at h
  cases h

/-- The era decision keeps a session's verdict. -/
theorem gradeEra_walkedResult (hh : checkHead C v env db s hd unavailable = none) :
    (gradeEra v (headIsSigned v hd) unavailable (walkedResult C parse v env db s n)).valid =
      (walkedResult C parse v env db s n).valid := by
  have hsigned : (walkedResult C parse v env db s n).entriesSigned =
      (walked C parse v env db s n).entriesSigned := by
    rw [walkedResult, gradeCutover_entriesSigned]
    rfl
  apply gradeEra_valid
  · rw [hsigned, walked_entriesSigned]
    exact Int.natCast_nonneg _
  · intro hpos
    apply headIsSigned_of_checkHead hh
    rw [hsigned, walked_entriesSigned] at hpos
    by_contra hc
    simp [hc] at hpos

theorem walkedResult_rc : (walkedResult C parse v env db s n).rc = none := by
  rw [walkedResult, gradeCutover_rc]
  rfl

/-- The verdict on a session whose head has been authenticated. -/
theorem closeSession_valid_iff
    (hh : checkHead C v env db s (readHead v row) (keyUnavailable C v db s) = none) :
    (closeSession v (readHead v row) (keyUnavailable C v db s)
        (chainVerifyLocked C parse v env db s 0 row.lastSequence)).valid = true ↔
      (chainVerifyLocked C parse v env db s 0 row.lastSequence).1.valid = true ∧
      (walked C parse v env db s row.lastSequence).expectedPrev = (readHead v row).hash.bytes := by
  unfold closeSession
  by_cases hv : (chainVerifyLocked C parse v env db s 0 row.lastSequence).1.valid = true
  · obtain ⟨hres, hlast⟩ := chainVerifyLocked_of_valid hv
    rw [hlast]
    rw [hres] at hv ⊢
    simp only [walkedResult_rc, hv, ne_eq, not_true_eq_false, Bool.true_eq_false, or_self, if_false,
      true_and]
    by_cases hp : (walked C parse v env db s row.lastSequence).expectedPrev =
        (readHead v row).hash.bytes
    · simp [hp, gradeEra_walkedResult hh, hv]
    · simp [hp]
  · simp [hv]

/-- **The session verdict.** -/
theorem valid_iff : (chainVerifySessionLocked C parse v env db s).valid = true ↔
      ∃ row, SessionValid C parse v env db s row := by
  unfold chainVerifySessionLocked
  constructor
  · intro h
    split at h
    · cases h
    rename_i hl
    split at h
    · cases h
    rename_i row hg
    split at h
    · cases h
    rename_i hh
    obtain ⟨hwalk, hlast⟩ := (closeSession_valid_iff hh).mp h
    obtain ⟨h0, hreads, hlink, hauth, hsigs, hlen, hcut⟩ := chainVerifyLocked_valid_iff.mp hwalk
    exact ⟨row, by simpa using hl, hg, hh, h0, hreads, hlink, hauth, hsigs, hlen, hlast, hcut⟩
  · rintro ⟨row, h⟩
    simp only [h.heads, h.head, h.headOk, Bool.false_eq_true, if_false]
    refine (closeSession_valid_iff h.headOk).mpr ⟨?_, h.last⟩
    exact chainVerifyLocked_valid_iff.mpr
      ⟨h.nonneg, h.reads, h.linked, h.authentic, h.sigs, h.complete, h.cutover⟩

theorem SessionValid.walked_valid (h : SessionValid C parse v env db s row) :
    (walkedResult C parse v env db s row.lastSequence).valid = true := by
  rw [walkedResult]
  exact (gradeCutover_valid rfl).mpr h.cutover

/-- The result of a valid session, field by field. -/
theorem SessionValid.result_eq (h : SessionValid C parse v env db s row) :
    chainVerifySessionLocked C parse v env db s =
      closeSession v (readHead v row) (keyUnavailable C v db s)
        (walkedResult C parse v env db s row.lastSequence,
          (walked C parse v env db s row.lastSequence).expectedPrev) := by
  have hwalk := chainVerifyLocked_valid_iff.mpr
    ⟨h.nonneg, h.reads, h.linked, h.authentic, h.sigs, h.complete, h.cutover⟩
  obtain ⟨h1, h2⟩ := chainVerifyLocked_of_valid hwalk
  unfold chainVerifySessionLocked
  simp only [h.heads, h.head, h.headOk, Bool.false_eq_true, if_false]
  rw [← h1, ← h2]

/-- A head that passes under a chain key carries its MAC. -/
theorem hmac_of_checkHead (hk : v.haveChainKey = true)
    (h : checkHead C v env db s hd unavailable = none) :
    C.hmacSha256Hex v.chainKey (headBytes env.stack s hd.seq hd.hash.bytes) = hd.mac.bytes := by
  unfold checkHead at h
  by_contra hne
  split at h
  · cases h
  split at h
  · cases h
  rw [if_pos ⟨hk, hne⟩] at h
  cases h

/-- What the verifier reads for a session are rows of its column. -/
theorem mem_entriesRead {e : Entry} (h : e ∈ entriesRead v db s lo hi) :
    ∃ r ∈ db.entries.rows, r.sessionId = s ∧
      readEntryFromStmt (v.readOnly && v.entrySigCols) r = e := by
  obtain ⟨r, hr, rfl⟩ := mem_map.mp h
  have hsess := (mem_insertionSort _).mp (mem_of_mem_filter hr)
  obtain ⟨hmem, hs⟩ := mem_filter.mp hsess
  exact ⟨r, hmem, by simpa using hs, rfl⟩

/-- The handle verifies with the chain key `K` and no public key. -/
structure KeyVerifier (K : Bytes) (v : Handle) : Prop where
  haveKey : v.haveChainKey = true
  key_eq : v.chainKey = K
  noPub : v.verifyPub = none
  heads : v.legacyNoHeads = false

namespace KeyVerifier
variable {K : Bytes}

section
variable (hv : KeyVerifier K v)
include hv

theorem sigDisabled : verifySigEnabled v = false := by
  simp [verifySigEnabled, hv.noPub]

theorem checksSigs_eq (s : Bytes) : checksSigs C v db s = false := by
  simp [checksSigs, hv.sigDisabled]

/-- The head is authenticated by its MAC alone. -/
theorem checkHead_iff (hf : env.Fine) : checkHead C v env db s hd unavailable = none ↔
      C.hmacSha256Hex K (headBytes env.stack s hd.seq hd.hash.bytes) = hd.mac.bytes := by
  unfold checkHead
  rw [hv.sigDisabled, hv.haveKey, hv.key_eq, hf]
  by_cases h : C.hmacSha256Hex K (headBytes env.stack s hd.seq hd.hash.bytes) = hd.mac.bytes <;>
    simp [h]

/-- **The verdict with the chain key alone.** -/
theorem sessionValid_iff (hf : env.Fine) : SessionValid C parse v env db s row ↔
      db.headGet s = some row ∧
      C.hmacSha256Hex K (headBytes env.stack s row.lastSequence (snprintfS 65 row.lastEntryHash)) =
        snprintfS 65 row.headHmac ∧ 0 ≤ row.lastSequence ∧
      LinkedEntries 0 (computeGenesisHash C env.stack s) (entriesRead v db s 0 row.lastSequence) ∧
      (∀ e ∈ entriesRead v db s 0 row.lastSequence, Authentic C parse v env db e) ∧
      ((entriesRead v db s 0 row.lastSequence).length : Int) = row.lastSequence + 1 ∧
      HashChain.tip (fun e : Entry => e.chainEntryHash.bytes) (computeGenesisHash C env.stack s)
        (entriesRead v db s 0 row.lastSequence) = snprintfS 65 row.lastEntryHash := by
  have hwalk : (walked C parse v env db s row.lastSequence).expectedPrev =
      HashChain.tip (fun e : Entry => e.chainEntryHash.bytes) (computeGenesisHash C env.stack s)
        (entriesRead v db s 0 row.lastSequence) := foldl_expectedPrev _ _
  have hhead : checkHead C v env db s (readHead v row) (keyUnavailable C v db s) = none ↔ _ :=
    checkHead_iff hv hf
  constructor
  · intro h
    exact ⟨h.head, hhead.mp h.headOk, h.nonneg, h.linked, h.authentic, h.complete, hwalk ▸ h.last⟩
  rintro ⟨h1, h2, h3, h4, h5, h6, h7⟩
  refine ⟨hv.heads, h1, hhead.mpr h2, h3, fun i _ => hf _ _, h4, h5, ?_, h6, hwalk.trans h7, ?_⟩
  · rw [hv.checksSigs_eq]
    exact sigAcceptedAll_false 0 _
  · intro hp
    rw [walked, hv.checksSigs_eq, foldl_unsignedPrefix] at hp
    cases hp

end

end KeyVerifier

end Virp
