import Virp.ChainRanges

/-! # What the verifier says about signatures

A session verified with a public key is graded on two axes: whether its chain is intact, and which
of its entries and its head are signed.  `ChainIntact` is what the verdict says apart from
signatures, which is what a verifier without a public key decides (`intact_iff`).  With the key, an
intact session is reported signed, signed from `n` on, or unsigned exactly for the patterns of
signatures that these names describe (`signature_grades`).
-/
namespace Virp

open List

variable {C : Crypto} {parse : Bytes → Option Json} {v : Handle} {env : ReadEnv} {db : Db}

/-- What a valid verdict on a session says apart from signatures. -/
structure ChainIntact (C : Crypto) (parse : Bytes → Option Json) (v : Handle) (env : ReadEnv) (db : Db)
    (s : Bytes) (row : HeadRow) : Prop where
  heads : v.legacyNoHeads = false
  head : db.headGet s = some row
  headMac : v.haveChainKey = true → env.fails row.lastSequence .headHmac = false ∧
    C.hmacSha256Hex v.chainKey
      (headBytes env.stack s row.lastSequence (readHead v row).hash.bytes) = (readHead v row).mac.bytes
  nonneg : 0 ≤ row.lastSequence
  reads : WalkReads env 0 (entriesRead v db s 0 row.lastSequence).length
  linked : LinkedEntries 0 (computeGenesisHash C env.stack s) (entriesRead v db s 0 row.lastSequence)
  authentic : ∀ e ∈ entriesRead v db s 0 row.lastSequence, Authentic C parse v env db e
  complete : ((entriesRead v db s 0 row.lastSequence).length : Int) = row.lastSequence + 1
  last : HashChain.tip (fun e : Entry => e.chainEntryHash.bytes) (computeGenesisHash C env.stack s)
    (entriesRead v db s 0 row.lastSequence) = (readHead v row).hash.bytes

/-- The head is accepted as far as signatures go. -/
def HeadAccepted (C : Crypto) (v : Handle) (env : ReadEnv) (db : Db) (s : Bytes) (row : HeadRow) : Prop :=
  verifySigEnabled v = true →
    ((sessionSigState v db s).1 = true → headIsSigned v (readHead v row) = true) ∧
    (headIsSigned v (readHead v row) = true → keyUnavailable C v db s = false →
      headSigOk C v env s (readHead v row) = true)

variable {s : Bytes} {row : HeadRow}

theorem checkHead_eq_none_iff {hd : HeadRead} {unavailable : Bool} :
    checkHead C v env db s hd unavailable = none ↔
      (v.haveChainKey = true → env.fails hd.seq .headHmac = false ∧
        C.hmacSha256Hex v.chainKey (headBytes env.stack s hd.seq hd.hash.bytes) = hd.mac.bytes) ∧
      (verifySigEnabled v = true → ((sessionSigState v db s).1 = true → headIsSigned v hd = true) ∧
        (headIsSigned v hd = true → unavailable = false → headSigOk C v env s hd = true)) := by
  unfold checkHead
  split_ifs <;> simp_all

/-- **The two axes of a session's verdict.** -/
theorem sessionValid_iff : SessionValid C parse v env db s row ↔
      ChainIntact C parse v env db s row ∧ HeadAccepted C v env db s row ∧
      (checksSigs C v db s = true →
        SigPart C v env db (entriesRead v db s 0 row.lastSequence)) := by
  have hfirst : expectedFirst C env db s 0 = some (computeGenesisHash C env.stack s) := rfl
  have htip : (walked C parse v env db s row.lastSequence).expectedPrev = _ :=
    foldl_expectedPrev _ _
  constructor
  · intro h
    obtain ⟨hmac, hhead⟩ := checkHead_eq_none_iff.mp h.headOk
    have hlen := h.complete
    have haccepted : RangeAccepted C parse v env db s 0 row.lastSequence
        (computeGenesisHash C env.stack s) :=
      ⟨Int.le_refl 0, h.nonneg, hfirst, h.reads, h.linked, h.authentic, h.sigs, by omega, h.cutover⟩
    exact ⟨⟨h.heads, h.head, hmac, h.nonneg, h.reads, h.linked, h.authentic, hlen,
      htip.symm.trans h.last⟩, hhead, (rangeAccepted_iff.mp haccepted).2⟩
  · rintro ⟨h, hhead, hpart⟩
    have hlen := h.complete
    have hintact : RangeIntact C parse v env db s 0 row.lastSequence
        (computeGenesisHash C env.stack s) :=
      ⟨Int.le_refl 0, h.nonneg, hfirst, h.reads, h.linked, h.authentic, by omega⟩
    have haccepted := rangeAccepted_iff.mpr ⟨hintact, hpart⟩
    exact ⟨h.heads, h.head, checkHead_eq_none_iff.mpr ⟨h.headMac, hhead⟩, h.nonneg, h.reads, h.linked,
      h.authentic, haccepted.sigs, h.complete, htip.trans h.last, haccepted.cutover⟩

/-- The verifier's public key does not matter to an intact chain. -/
theorem ChainIntact.withKey (h : ChainIntact C parse v env db s row) (key : Option Bytes) :
    ChainIntact C parse { v with verifyPub := key } env db s row :=
  ⟨h.heads, h.head, h.headMac, h.nonneg, h.reads, h.linked,
    fun e he => ⟨(h.authentic e he).short, (h.authentic e he).hash_eq, (h.authentic e he).hmac_eq,
      (h.authentic e he).binding, (h.authentic e he).evidence⟩, h.complete, h.last⟩

/-- **A chain is intact** if it is valid for a verifier that has no public key. -/
theorem intact_iff : (∃ row, ChainIntact C parse v env db s row) ↔
      (chainVerifySessionLocked C parse { v with verifyPub := none } env db s).valid = true := by
  have hchecks : checksSigs C { v with verifyPub := none } db s = false := rfl
  rw [valid_iff]
  constructor
  · rintro ⟨row, h⟩
    refine ⟨row, sessionValid_iff.mpr ⟨h.withKey none, fun hsig => (nomatch hsig), fun hc => ?_⟩⟩
    exact absurd (hchecks.symm.trans hc) Bool.false_ne_true
  · rintro ⟨row, h⟩
    exact ⟨row, (sessionValid_iff.mp h).1.withKey v.verifyPub⟩

/-- The head carries a signature that verifies. -/
def HeadVerifies (C : Crypto) (v : Handle) (env : ReadEnv) (s : Bytes) (row : HeadRow) : Prop :=
  headIsSigned v (readHead v row) = true ∧ headSigOk C v env s (readHead v row) = true

/-- The entry carries a signature under the verifier's key that verifies. -/
def EntryVerifies (C : Crypto) (v : Handle) (e : Entry) : Prop :=
  e.chainSig.bytes ≠ [] ∧ e.chainSigKeyId.bytes = verifyKeyIdHex C v ∧ entrySigOk C v e = true

/-- Neither the head nor any entry of the session carries a signature. -/
def NothingSigned (v : Handle) (db : Db) (s : Bytes) (row : HeadRow) : Prop :=
  headIsSigned v (readHead v row) = false ∧
    ∀ r ∈ db.entries.rows, r.sessionId = s → r.chainSig.getD [] = []

theorem SigVerifier.headIsSigned_iff (hv : SigVerifier v) (row : HeadRow) :
    headIsSigned v (readHead v row) = true ↔ cstr (row.headSig.getD []) ≠ [] := by
  have hsig : (readHead v row).sig.bytes = snprintfS 129 (row.headSig.getD []) := by
    simp [readHead, hv.readOnly, hv.headCols]
  simp only [headIsSigned, hv.headCols, Bool.true_and, bne_iff_ne, hsig, ne_eq,
    snprintfS_eq_nil_iff (show 1 < 129 by decide)]

/-- A session is unsigned exactly if nothing in it is signed. -/
theorem SigVerifier.unsigned_iff (hv : SigVerifier v) (hrow : db.headGet s = some row) :
    (sessionSigState v db s).1 = false ↔ NothingSigned v db s row := by
  have hhead := hv.headIsSigned_iff row
  unfold sessionSigState NothingSigned
  simp only [hrow, Option.bind_some, hv.headCols, hv.entryCols, true_and]
  by_cases hsig : cstr (row.headSig.getD []) = []
  · have hnot : headIsSigned v (readHead v row) = false := by
      rw [← Bool.not_eq_true, hhead]
      simpa using hsig
    rw [if_neg (by simpa using hsig)]
    by_cases hany : (db.entries.rows.any fun r => r.sessionId == s && r.chainSig.getD [] != []) = true
    · rw [if_pos hany]
      simp only [Bool.true_eq_false, hnot, true_and, false_iff]
      obtain ⟨r, hr, hprop⟩ := any_eq_true.mp hany
      simp only [Bool.and_eq_true, beq_iff_eq, bne_iff_ne] at hprop
      exact fun hall => hprop.2 (hall r hr hprop.1)
    · rw [if_neg hany]
      simp only [hnot, true_and, true_iff]
      intro r hr hs
      by_contra hne
      exact hany (any_eq_true.mpr ⟨r, hr, by simp [hs, hne]⟩)
  · rw [if_pos hsig]
    simp [hhead.mpr hsig]

/-- Signatures are graded in every signed session whose key the verifier has. -/
theorem SigVerifier.checksSigs_eq (hv : SigVerifier v) (hkey : keyUnavailable C v db s = false) :
    checksSigs C v db s = (sessionSigState v db s).1 := by
  simp [checksSigs, hv.pub, hv.entryCols, hkey]

/-! ## The grades -/

/-- **The era of a valid session whose signatures are graded**, from its unsigned entries and the
signed ones after them. -/
theorem SessionValid.grade (h : SessionValid C parse v env db s row)
    (hc : checksSigs C v db s = true) : ∃ us ss, entriesRead v db s 0 row.lastSequence = us ++ ss ∧
      (∀ e ∈ us, e.chainSig.bytes = []) ∧ (∀ e ∈ ss, EntryVerifies C v e) ∧
      (us = [] → (chainVerifySessionLocked C parse v env db s).sigEra = .signed) ∧
      (us ≠ [] → ss = [] → (chainVerifySessionLocked C parse v env db s).sigEra = .notGraded) ∧
      (us ≠ [] → ∀ e, ss.head? = some e →
        (chainVerifySessionLocked C parse v env db s).sigEra = .fromN ∧
        (chainVerifySessionLocked C parse v env db s).sigTransitionSeq = e.sequence ∧
        CutoverPassed v env db e) := by
  obtain ⟨hsigs, hcut⟩ := (sessionValid_iff.mp h).2.2 hc
  obtain ⟨us, ss, hes, hus, hss, -, hfrom⟩ := h.era hc
  obtain ⟨hunsigned, hprefixed, hfirst, -⟩ := h.walked_split hc hes hus hss
  obtain ⟨hera, -, -⟩ := h.era_eq hc
  have hcols := checksSigs_cols hc
  have hcount := walkedResult_entriesUnsigned.trans hunsigned
  refine ⟨us, ss, hes, hus, fun e he => ?_, fun hnil => ?_, fun hne hnil => ?_, fun hne e he => ?_⟩
  · rw [hes] at hsigs
    exact ⟨hss e he, hsigs.sig_ok (mem_append_right _ he) (hss e he)⟩
  · rw [hera, gradeEra]
    simp [hcols.1, hcols.2, hcount, hnil]
  · have hno : (walkedResult C parse v env db s row.lastSequence).sigTransitionSeq = -1 := by
      rw [walkedResult, gradeCutover, if_neg]
      · rfl
      · rintro ⟨-, hpos⟩
        rw [hfirst, hnil] at hpos
        exact absurd hpos (by decide)
    rw [hera, gradeEra]
    simp [hcols.1, hcols.2, hcount, hne, hno]
  · obtain ⟨hfromN, htransition, -⟩ := hfrom hne e he
    refine ⟨hfromN, htransition, hcut e ?_⟩
    obtain ⟨ss', rfl⟩ := head?_eq_some_iff.mp he
    rw [hes, transition_unsigned hus hne]
    simp [hss e mem_cons_self]

/-- The era of a valid session in which nothing is signed. -/
theorem SessionValid.unsigned_era (h : SessionValid C parse v env db s row) (hv : SigVerifier v)
    (hu : (sessionSigState v db s).1 = false) :
    (chainVerifySessionLocked C parse v env db s).sigEra = .unsigned := by
  have hc : checksSigs C v db s = false := by simp [checksSigs, hu]
  have hkey : keyUnavailable C v db s = false := by simp [keyUnavailable, hu]
  have hhead := ((hv.unsigned_iff h.head).mp hu).1
  have hvalid := h.walked_valid
  have hzero : (walkedResult C parse v env db s row.lastSequence).entriesSigned = 0 := by
    rw [walkedResult, gradeCutover_entriesSigned]
    change (walked C parse v env db s row.lastSequence).entriesSigned = 0
    rw [walked_entriesSigned, hc]
    simp
  rw [h.result_eq, closeSession]
  simp only [walkedResult_rc, hvalid, h.last, hhead, hkey, ne_eq, not_true_eq_false,
    Bool.true_eq_false, or_self, if_false, gradeEra, hv.pub, hv.entryCols, hzero]
  simp

/-- The flag for a clean bill of health. -/
theorem validSigned_iff : (chainVerifySessionLocked C parse v env db s).validSigned = true ↔
      (chainVerifySessionLocked C parse v env db s).valid = true ∧
      (chainVerifySessionLocked C parse v env db s).sigEra = .signed := by
  have hflag : (chainVerifySessionLocked C parse v env db s).valid = true →
      ((chainVerifySessionLocked C parse v env db s).validSigned = true ↔
        (chainVerifySessionLocked C parse v env db s).sigEra = .signed) := by
    intro hvalid
    obtain ⟨row, h⟩ := valid_iff.mp hvalid
    have hwalk := h.walked_valid
    have hera : (gradeEra v (headIsSigned v (readHead v row)) (keyUnavailable C v db s)
        (walkedResult C parse v env db s row.lastSequence)).valid = _ :=
      gradeEra_walkedResult h.headOk
    rw [h.result_eq, closeSession]
    simp only [walkedResult_rc, hwalk, h.last, ne_eq, not_true_eq_false, Bool.true_eq_false, or_self,
      if_false, hera, Bool.true_and, decide_eq_true_eq]
  constructor
  · intro h
    exact ⟨valid_of_validSigned h, (hflag (valid_of_validSigned h)).mp h⟩
  · rintro ⟨hvalid, hera⟩
    exact (hflag hvalid).mpr hera

/-- The entries before `n` are unsigned, those from `n` on verify, and there are some of both. -/
structure SignedFrom (C : Crypto) (v : Handle) (n last : Int) (es : List Entry) : Prop where
  pos : 0 < n
  le : n ≤ last
  unsigned : ∀ e ∈ es, e.sequence < n → e.chainSig.bytes = []
  signed : ∀ e ∈ es, n ≤ e.sequence → EntryVerifies C v e

/-- The unsigned and the signed entries of a linked session stand below and from `n` on. -/
theorem signedFrom_append {prev : Bytes} {last : Int} {us ss : List Entry}
    (hlinked : LinkedEntries 0 prev (us ++ ss)) (hlen : ((us ++ ss).length : Int) = last + 1)
    (hus : ∀ e ∈ us, e.chainSig.bytes = []) (hss : ∀ e ∈ ss, EntryVerifies C v e) (hne : us ≠ [])
    (hne' : ss ≠ []) : SignedFrom C v us.length last (us ++ ss) := by
  obtain ⟨hl, hl'⟩ := HashChain.linked_append.mp hlinked
  have hpos := length_pos_of_ne_nil hne
  have hpos' := length_pos_of_ne_nil hne'
  rw [length_append] at hlen
  refine ⟨by omega, by push_cast at hlen; omega, fun e he hlt => ?_, fun e he hge => ?_⟩
  · rcases mem_append.mp he with he | he
    · exact hus e he
    · have := (HashChain.Linked.seq_mem hl' he).1
      omega
  · rcases mem_append.mp he with he | he
    · have := (HashChain.Linked.seq_mem hl he).2
      omega
    · exact hss e he

/-- A linked session that is signed from `n` on splits there. -/
theorem SignedFrom.split {prev : Bytes} {n last : Int} {es : List Entry}
    (h : SignedFrom C v n last es) (hlinked : LinkedEntries 0 prev es)
    (hlen : (es.length : Int) = last + 1) :
    ∃ us ss, es = us ++ ss ∧ (us.length : Int) = n ∧ us ≠ [] ∧ ss ≠ [] ∧
      (∀ e ∈ us, e.chainSig.bytes = []) ∧ ∀ e ∈ ss, EntryVerifies C v e := by
  have hpos := h.pos
  have hle := h.le
  have htake : (es.take n.toNat).length = n.toNat := by
    rw [length_take]
    omega
  have hsplit : es = es.take n.toNat ++ es.drop n.toNat := (take_append_drop _ _).symm
  have hlinked' := hlinked
  rw [hsplit] at hlinked'
  obtain ⟨hl, hl'⟩ := HashChain.linked_append.mp hlinked'
  refine ⟨es.take n.toNat, es.drop n.toNat, hsplit, by omega, ?_, ?_, fun e he => ?_, fun e he => ?_⟩
  · exact ne_nil_of_length_pos (by omega)
  · exact ne_nil_of_length_pos (by rw [length_drop]; omega)
  · have := (HashChain.Linked.seq_mem hl he).2
    exact h.unsigned e (mem_of_mem_take he) (by omega)
  · have := (HashChain.Linked.seq_mem hl' he).1
    exact h.signed e (mem_of_mem_drop he) (by omega)

/-- There is one place from which on a session is signed. -/
theorem unsigned_split_unique {us ss us' ss' : List Entry} (heq : us ++ ss = us' ++ ss')
    (hus : ∀ e ∈ us, e.chainSig.bytes = []) (hss : ∀ e ∈ ss, e.chainSig.bytes ≠ [])
    (hus' : ∀ e ∈ us', e.chainSig.bytes = []) (hss' : ∀ e ∈ ss', e.chainSig.bytes ≠ []) :
    us = us' ∧ ss = ss' := by
  have hfilter : ∀ {us ss : List Entry}, (∀ e ∈ us, e.chainSig.bytes = []) →
      (∀ e ∈ ss, e.chainSig.bytes ≠ []) →
      (us ++ ss).filter (fun e => decide (e.chainSig.bytes = [])) = us := by
    intro us ss hus hss
    rw [filter_append, filter_eq_self.mpr fun e he => by simpa using hus e he,
      filter_eq_nil_iff.mpr fun e he => by simpa using hss e he, append_nil]
  have hunsigned : us = us' := by
    rw [← hfilter hus hss, heq, hfilter hus' hss']
  subst hunsigned
  exact ⟨rfl, append_cancel_left heq⟩

/-- What a signed head has to be in a valid session. -/
theorem SessionValid.headVerifies (h : SessionValid C parse v env db s row) (hv : SigVerifier v)
    (hkey : keyUnavailable C v db s = false) (hsigned : (sessionSigState v db s).1 = true) :
    HeadVerifies C v env s row := by
  obtain ⟨hhead, hok⟩ := (sessionValid_iff.mp h).2.1 hv.pub
  exact ⟨hhead hsigned, hok (hhead hsigned) hkey⟩

/-- A session whose head verifies is signed, and valid if it is intact and its entries' signatures
are accepted. -/
theorem HeadVerifies.sessionValid (hhead : HeadVerifies C v env s row) (hv : SigVerifier v)
    (hkey : keyUnavailable C v db s = false) (hintact : ChainIntact C parse v env db s row)
    (hpart : SigPart C v env db (entriesRead v db s 0 row.lastSequence)) :
    SessionValid C parse v env db s row ∧ checksSigs C v db s = true := by
  have hsigned : (sessionSigState v db s).1 = true := by
    by_contra hu
    have := ((hv.unsigned_iff hintact.head).mp (by simpa using hu)).1
    rw [hhead.1] at this
    cases this
  exact ⟨sessionValid_iff.mpr ⟨hintact, fun _ => ⟨fun _ => hhead.1, fun _ _ => hhead.2⟩,
    fun _ => hpart⟩, (hv.checksSigs_eq hkey).trans hsigned⟩

/-- **Signed.** -/
theorem signed_iff (hv : SigVerifier v) (hkey : keyUnavailable C v db s = false) :
    ((chainVerifySessionLocked C parse v env db s).valid = true ∧
        (chainVerifySessionLocked C parse v env db s).sigEra = .signed) ↔
      ∃ row, ChainIntact C parse v env db s row ∧ HeadVerifies C v env s row ∧
        ∀ e ∈ entriesRead v db s 0 row.lastSequence, EntryVerifies C v e := by
  constructor
  · rintro ⟨hvalid, hera⟩
    obtain ⟨row, h⟩ := valid_iff.mp hvalid
    cases hstate : (sessionSigState v db s).1 with
    | false =>
      rw [h.unsigned_era hv hstate] at hera
      cases hera
    | true =>
      have hc := (hv.checksSigs_eq hkey).trans hstate
      obtain ⟨us, ss, hes, -, hss, -, hnone, hfrom⟩ := h.grade hc
      refine ⟨row, (sessionValid_iff.mp h).1, h.headVerifies hv hkey hstate, ?_⟩
      by_cases hne : us = []
      · rw [hes, hne]
        exact hss
      cases ss with
      | nil =>
        rw [hnone hne rfl] at hera
        cases hera
      | cons e ss =>
        rw [(hfrom hne e rfl).1] at hera
        cases hera
  · rintro ⟨row, hintact, hhead, hall⟩
    have hsig : ∀ e ∈ entriesRead v db s 0 row.lastSequence, e.chainSig.bytes ≠ [] :=
      fun e he => (hall e he).1
    have hpart : SigPart C v env db (entriesRead v db s 0 row.lastSequence) := by
      refine ⟨sigAcceptedAll_signed hall 0, ?_⟩
      simp [transition_signed hsig]
    obtain ⟨h, hc⟩ := hhead.sessionValid hv hkey hintact hpart
    obtain ⟨us, ss, hes, hus, hss, hfull, -, -⟩ := h.grade hc
    have hwhole : us ++ ss = [] ++ entriesRead v db s 0 row.lastSequence := hes.symm
    obtain ⟨hnil, -⟩ := unsigned_split_unique hwhole hus (fun e he => (hss e he).1) (by simp) hsig
    exact ⟨valid_iff.mpr ⟨row, h⟩, hfull hnil⟩

/-- **Signed from `n` on.** -/
theorem fromN_iff (hv : SigVerifier v) (hkey : keyUnavailable C v db s = false) (n : Int) :
    ((chainVerifySessionLocked C parse v env db s).valid = true ∧
        (chainVerifySessionLocked C parse v env db s).sigEra = .fromN ∧
        (chainVerifySessionLocked C parse v env db s).sigTransitionSeq = n) ↔
      ∃ row, ChainIntact C parse v env db s row ∧ HeadVerifies C v env s row ∧
        SignedFrom C v n row.lastSequence (entriesRead v db s 0 row.lastSequence) ∧
        ∀ e ∈ entriesRead v db s 0 row.lastSequence, e.sequence = n → CutoverPassed v env db e := by
  constructor
  · rintro ⟨hvalid, hera, hseq⟩
    obtain ⟨row, h⟩ := valid_iff.mp hvalid
    cases hstate : (sessionSigState v db s).1 with
    | false =>
      rw [h.unsigned_era hv hstate] at hera
      cases hera
    | true =>
      have hc := (hv.checksSigs_eq hkey).trans hstate
      obtain ⟨us, ss, hes, hus, hss, hfull, hnone, hfrom⟩ := h.grade hc
      have hne : us ≠ [] := by
        intro hnil
        rw [hfull hnil] at hera
        cases hera
      cases ss with
      | nil =>
        rw [hnone hne rfl] at hera
        cases hera
      | cons d ss =>
        obtain ⟨-, htransition, hpassed⟩ := hfrom hne d rfl
        have hlinked := h.linked
        have hlen := h.complete
        rw [hes] at hlinked hlen
        have hd : d.sequence = us.length := by
          have := (HashChain.linked_append.mp hlinked).2.1
          omega
        have hn : (us.length : Int) = n := by omega
        refine ⟨row, (sessionValid_iff.mp h).1, h.headVerifies hv hkey hstate, ?_, fun e he heq => ?_⟩
        · rw [hes, ← hn]
          exact signedFrom_append hlinked hlen hus hss hne (cons_ne_nil _ _)
        · have hdmem : d ∈ entriesRead v db s 0 row.lastSequence :=
            hes ▸ mem_append_right _ mem_cons_self
          rw [HashChain.Linked.eq_of_seq_eq h.linked he hdmem (by omega)]
          exact hpassed
  · rintro ⟨row, hintact, hhead, hfromN, hpassed⟩
    obtain ⟨us, ss, hes, hn, hne, hne', hus, hss⟩ := hfromN.split hintact.linked hintact.complete
    obtain ⟨d, ss, rfl⟩ := exists_cons_of_ne_nil hne'
    have hd : d.sequence = n := by
      have hlinked := hintact.linked
      rw [hes] at hlinked
      have := (HashChain.linked_append.mp hlinked).2.1
      omega
    have hdmem : d ∈ entriesRead v db s 0 row.lastSequence := hes ▸ mem_append_right _ mem_cons_self
    have hpart : SigPart C v env db (entriesRead v db s 0 row.lastSequence) := by
      rw [hes]
      refine ⟨sigAcceptedAll_append hus hss, ?_⟩
      have hsig : d.chainSig.bytes ≠ [] := (hss d mem_cons_self).1
      rw [transition_unsigned hus hne, find?_cons_of_pos (by simpa using hsig)]
      rintro e ⟨⟩
      exact hpassed d hdmem hd
    obtain ⟨h, hc⟩ := hhead.sessionValid hv hkey hintact hpart
    obtain ⟨us', ss', hes', hus', hss', -, -, hfrom⟩ := h.grade hc
    obtain ⟨rfl, rfl⟩ := unsigned_split_unique (hes.symm.trans hes') hus (fun e he => (hss e he).1) hus'
      fun e he => (hss' e he).1
    obtain ⟨hera, htransition, -⟩ := hfrom hne d rfl
    exact ⟨valid_iff.mpr ⟨row, h⟩, hera, htransition.trans hd⟩

/-- **Unsigned.** -/
theorem unsigned_iff (hv : SigVerifier v) (hkey : keyUnavailable C v db s = false) :
    ((chainVerifySessionLocked C parse v env db s).valid = true ∧
        (chainVerifySessionLocked C parse v env db s).sigEra = .unsigned) ↔
      ∃ row, ChainIntact C parse v env db s row ∧ NothingSigned v db s row := by
  constructor
  · rintro ⟨hvalid, hera⟩
    obtain ⟨row, h⟩ := valid_iff.mp hvalid
    cases hstate : (sessionSigState v db s).1 with
    | false => exact ⟨row, (sessionValid_iff.mp h).1, (hv.unsigned_iff h.head).mp hstate⟩
    | true =>
      obtain ⟨us, ss, -, -, -, hfull, hnone, hfrom⟩ := h.grade ((hv.checksSigs_eq hkey).trans hstate)
      by_cases hne : us = []
      · rw [hfull hne] at hera
        cases hera
      cases ss with
      | nil =>
        rw [hnone hne rfl] at hera
        cases hera
      | cons e ss =>
        rw [(hfrom hne e rfl).1] at hera
        cases hera
  · rintro ⟨row, hintact, hnothing⟩
    have hstate := (hv.unsigned_iff hintact.head).mpr hnothing
    have h : SessionValid C parse v env db s row := by
      refine sessionValid_iff.mpr ⟨hintact, fun _ => ⟨fun hs => ?_, fun hs => ?_⟩, fun hc => ?_⟩
      · exact absurd (hstate.symm.trans hs) Bool.false_ne_true
      · exact absurd (hnothing.1.symm.trans hs) Bool.false_ne_true
      rw [hv.checksSigs_eq hkey, hstate] at hc
      cases hc
    exact ⟨valid_iff.mpr ⟨row, h⟩, h.unsigned_era hv hstate⟩

/-- **No other era**, unless the head alone is signed. -/
theorem eras_iff (hv : SigVerifier v) (hkey : keyUnavailable C v db s = false) :
    ((chainVerifySessionLocked C parse v env db s).valid = true →
      (chainVerifySessionLocked C parse v env db s).sigEra = .signed ∨
      (chainVerifySessionLocked C parse v env db s).sigEra = .fromN ∨
      (chainVerifySessionLocked C parse v env db s).sigEra = .unsigned) ↔
    ¬ ∃ row, ChainIntact C parse v env db s row ∧ HeadVerifies C v env s row ∧
      entriesRead v db s 0 row.lastSequence ≠ [] ∧
      ∀ e ∈ entriesRead v db s 0 row.lastSequence, e.chainSig.bytes = [] := by
  constructor
  · rintro heras ⟨row, hintact, hhead, hne, hall⟩
    have hpart : SigPart C v env db (entriesRead v db s 0 row.lastSequence) := by
      rw [← append_nil (entriesRead v db s 0 row.lastSequence)]
      refine ⟨sigAcceptedAll_append hall nofun, ?_⟩
      rw [transition_unsigned hall hne, find?_nil]
      exact nofun
    obtain ⟨h, hc⟩ := hhead.sessionValid hv hkey hintact hpart
    obtain ⟨us, ss, hes, -, hss, -, hnone, -⟩ := h.grade hc
    have hnil : ss = [] := by
      refine eq_nil_iff_forall_not_mem.mpr fun e he => (hss e he).1 (hall e ?_)
      exact hes ▸ mem_append_right us he
    have hera := hnone (by rintro rfl; exact hne (hes.trans hnil)) hnil
    have := heras (valid_iff.mpr ⟨row, h⟩)
    rw [hera] at this
    simp at this
  · intro hnot hvalid
    obtain ⟨row, h⟩ := valid_iff.mp hvalid
    cases hstate : (sessionSigState v db s).1 with
    | false => exact .inr (.inr (h.unsigned_era hv hstate))
    | true =>
      obtain ⟨us, ss, hes, hus, -, hfull, -, hfrom⟩ :=
        h.grade ((hv.checksSigs_eq hkey).trans hstate)
      by_cases hne : us = []
      · exact .inl (hfull hne)
      · cases ss with
        | nil =>
          rw [append_nil] at hes
          exact absurd ⟨row, (sessionValid_iff.mp h).1, h.headVerifies hv hkey hstate,
            hes ▸ hne, hes ▸ hus⟩ hnot
        | cons e ss => exact .inr (.inl (hfrom hne e rfl).1)

/-- What the verdict should say about signatures: the era is the pattern of the signatures, and a
valid session has one of the three. -/
structure GradesExact (C : Crypto) (parse : Bytes → Option Json) (v : Handle) (env : ReadEnv)
    (db : Db) (s : Bytes) : Prop where
  signed : (chainVerifySessionLocked C parse v env db s).validSigned = true ↔
    ∃ row, ChainIntact C parse v env db s row ∧ HeadVerifies C v env s row ∧
      ∀ e ∈ entriesRead v db s 0 row.lastSequence, EntryVerifies C v e
  fromN : ∀ n, ((chainVerifySessionLocked C parse v env db s).valid = true ∧
      (chainVerifySessionLocked C parse v env db s).sigEra = .fromN ∧
      (chainVerifySessionLocked C parse v env db s).sigTransitionSeq = n) ↔
    ∃ row, ChainIntact C parse v env db s row ∧ HeadVerifies C v env s row ∧
      SignedFrom C v n row.lastSequence (entriesRead v db s 0 row.lastSequence)
  unsigned : ((chainVerifySessionLocked C parse v env db s).valid = true ∧
      (chainVerifySessionLocked C parse v env db s).sigEra = .unsigned) ↔
    ∃ row, ChainIntact C parse v env db s row ∧ NothingSigned v db s row
  others : (chainVerifySessionLocked C parse v env db s).valid = true →
    (chainVerifySessionLocked C parse v env db s).sigEra = .signed ∨
    (chainVerifySessionLocked C parse v env db s).sigEra = .fromN ∨
    (chainVerifySessionLocked C parse v env db s).sigEra = .unsigned

/-- **What the verifier says about signatures**, with a public key whose id is the session's.  It is
what it should be exactly if a first signature after unsigned entries never fails the cutover test,
and the head is not signed alone.  In any case the session is valid and signed, signed from `n` on,
or unsigned exactly for an intact chain with these signatures, where a first signature after unsigned
entries must not stand before signing began on the chain; and a session with another pattern is not
valid, unless its head is signed and none of its entries. -/
theorem signature_grades (hv : SigVerifier v) {s : Bytes} (hkey : keyUnavailable C v db s = false) :
    (GradesExact C parse v env db s ↔
      (∀ row n, ChainIntact C parse v env db s row → HeadVerifies C v env s row →
        SignedFrom C v n row.lastSequence (entriesRead v db s 0 row.lastSequence) →
        ∀ e ∈ entriesRead v db s 0 row.lastSequence, e.sequence = n → CutoverPassed v env db e) ∧
      ¬ ∃ row, ChainIntact C parse v env db s row ∧ HeadVerifies C v env s row ∧
        entriesRead v db s 0 row.lastSequence ≠ [] ∧
        ∀ e ∈ entriesRead v db s 0 row.lastSequence, e.chainSig.bytes = []) ∧
    ((chainVerifySessionLocked C parse v env db s).validSigned = true ↔
      (chainVerifySessionLocked C parse v env db s).valid = true ∧
      (chainVerifySessionLocked C parse v env db s).sigEra = .signed) ∧
    (((chainVerifySessionLocked C parse v env db s).valid = true ∧
        (chainVerifySessionLocked C parse v env db s).sigEra = .signed) ↔
      ∃ row, ChainIntact C parse v env db s row ∧ HeadVerifies C v env s row ∧
        ∀ e ∈ entriesRead v db s 0 row.lastSequence, EntryVerifies C v e) ∧
    (∀ n, ((chainVerifySessionLocked C parse v env db s).valid = true ∧
        (chainVerifySessionLocked C parse v env db s).sigEra = .fromN ∧
        (chainVerifySessionLocked C parse v env db s).sigTransitionSeq = n) ↔
      ∃ row, ChainIntact C parse v env db s row ∧ HeadVerifies C v env s row ∧
        SignedFrom C v n row.lastSequence (entriesRead v db s 0 row.lastSequence) ∧
        ∀ e ∈ entriesRead v db s 0 row.lastSequence, e.sequence = n → CutoverPassed v env db e) ∧
    (((chainVerifySessionLocked C parse v env db s).valid = true ∧
        (chainVerifySessionLocked C parse v env db s).sigEra = .unsigned) ↔
      ∃ row, ChainIntact C parse v env db s row ∧ NothingSigned v db s row) ∧
    (∀ row, db.headGet s = some row →
      ¬ (HeadVerifies C v env s row ∧
        ∀ e ∈ entriesRead v db s 0 row.lastSequence, e.chainSig.bytes = []) →
      (chainVerifySessionLocked C parse v env db s).valid = true →
      (chainVerifySessionLocked C parse v env db s).sigEra = .signed ∨
      (chainVerifySessionLocked C parse v env db s).sigEra = .fromN ∨
      (chainVerifySessionLocked C parse v env db s).sigEra = .unsigned) := by
  refine ⟨?_, validSigned_iff, signed_iff hv hkey, fromN_iff hv hkey, unsigned_iff hv hkey, ?_⟩
  · constructor
    · intro h
      refine ⟨fun row n hintact hhead hfrom => ?_, (eras_iff hv hkey).mp h.others⟩
      obtain ⟨row', hintact', -, -, hpassed⟩ :=
        (fromN_iff hv hkey n).mp ((h.fromN n).mpr ⟨row, hintact, hhead, hfrom⟩)
      obtain rfl : row' = row := Option.some.inj (hintact'.head.symm.trans hintact.head)
      exact hpassed
    · rintro ⟨hcut, hpattern⟩
      refine ⟨validSigned_iff.trans (signed_iff hv hkey), fun n => (fromN_iff hv hkey n).trans ?_,
        unsigned_iff hv hkey, (eras_iff hv hkey).mpr hpattern⟩
      exact exists_congr fun row => ⟨fun h => ⟨h.1, h.2.1, h.2.2.1⟩,
        fun h => ⟨h.1, h.2.1, h.2.2, hcut row n h.1 h.2.1 h.2.2⟩⟩
  · intro row hrow hpattern
    refine (eras_iff hv hkey).mpr ?_
    rintro ⟨row', hintact, hhead, -, hall⟩
    obtain rfl : row' = row := Option.some.inj (hintact.head.symm.trans hrow)
    exact hpattern ⟨hhead, hall⟩

open Sample in
/-- The signed session is one whose head and entries verify. -/
theorem signature_grades_run :
    keyUnavailable sigCrypto sigVerifier (run sigCrypto sigOps).store.committed (text "s1") = false ∧
    ∃ row, ChainIntact sigCrypto parseCitation sigVerifier readEnv
        (run sigCrypto sigOps).store.committed (text "s1") row ∧
      HeadVerifies sigCrypto sigVerifier readEnv (text "s1") row ∧
      ∀ e ∈ entriesRead sigVerifier (run sigCrypto sigOps).store.committed (text "s1") 0
        row.lastSequence, EntryVerifies sigCrypto sigVerifier e := by
  have hkey : keyUnavailable sigCrypto sigVerifier (run sigCrypto sigOps).store.committed
      (text "s1") = false := by
    decide +kernel
  obtain ⟨-, hflag, hsigned, -⟩ := @signature_grades sigCrypto parseCitation sigVerifier readEnv _
    sigVerifier_sigVerifier _ hkey
  exact ⟨hkey, hsigned.mp (hflag.mp sig_run.2.2.2.2.1)⟩

namespace Sample

/-- An entry of another session that carries a signature and the time 0. -/
def timelessRow : EntryRow where
  rowid := 3
  sessionId := text "s2"
  sequence := 0
  chainEntryHash := zeroHash
  previousEntryHash := genesis
  timestampNs := 0
  monotonicNs := 7
  artifactType := text "observation"
  artifactId := text "o3"
  artifactHash := observation.artifactHash
  artifactHashAlg := text "sha256"
  artifactSchemaVersion := text "1"
  signerNodeId := 1
  signerOrgId := text "local"
  chainHmac := zeroHash
  chainSig := some (text "00")
  chainSigKeyId := some []

/-- The session signed from 1 on, beside that entry. -/
def timelessDb : Db :=
  { strippedFirst (run sigCrypto sigOps).store.committed with
    entries := (strippedFirst (run sigCrypto sigOps).store.committed).entries.insertOrIgnore
      timelessRow }

end Sample

open Sample in
/-- **A cutover that cannot be dated.**  The chain is intact, its head verifies, the first entry is
unsigned and the second verifies; but the earliest signature in the database carries the time 0, and
the session is invalid. -/
theorem undated_cutover_invalid :
    SigVerifier sigVerifier ∧ keyUnavailable sigCrypto sigVerifier timelessDb (text "s1") = false ∧
    (∃ row, ChainIntact sigCrypto parseCitation sigVerifier readEnv timelessDb (text "s1") row ∧
      HeadVerifies sigCrypto sigVerifier readEnv (text "s1") row ∧
      SignedFrom sigCrypto sigVerifier 1 row.lastSequence
        (entriesRead sigVerifier timelessDb (text "s1") 0 row.lastSequence)) ∧
    (chainVerifySessionLocked sigCrypto parseCitation sigVerifier readEnv timelessDb
      (text "s1")).valid = false := by
  obtain ⟨hkey, hintact, hinvalid, hrow⟩ :
      keyUnavailable sigCrypto sigVerifier timelessDb (text "s1") = false ∧
      (chainVerifySessionLocked sigCrypto parseCitation { sigVerifier with verifyPub := none } readEnv
        timelessDb (text "s1")).valid = true ∧
      (chainVerifySessionLocked sigCrypto parseCitation sigVerifier readEnv timelessDb
        (text "s1")).valid = false ∧ ∀ row ∈ timelessDb.headGet (text "s1"),
        (headIsSigned sigVerifier (readHead sigVerifier row) = true ∧
          headSigOk sigCrypto sigVerifier readEnv (text "s1") (readHead sigVerifier row) = true) ∧
        1 ≤ row.lastSequence ∧
        ∀ e ∈ entriesRead sigVerifier timelessDb (text "s1") 0 row.lastSequence,
          (e.sequence < 1 → e.chainSig.bytes = []) ∧ (1 ≤ e.sequence → e.chainSig.bytes ≠ [] ∧
            e.chainSigKeyId.bytes = verifyKeyIdHex sigCrypto sigVerifier ∧
            entrySigOk sigCrypto sigVerifier e = true) := by
    decide +kernel
  obtain ⟨row, h⟩ := intact_iff.mpr hintact
  obtain ⟨hhead, hlast, hentries⟩ := hrow row h.head
  exact ⟨sigVerifier_sigVerifier, hkey, ⟨row, h, hhead,
    ⟨Int.zero_lt_one, hlast, fun e he => (hentries e he).1, fun e he => (hentries e he).2⟩⟩, hinvalid⟩

end Virp
