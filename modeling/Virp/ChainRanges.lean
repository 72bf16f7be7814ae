import Virp.SignatureEra

/-! # Verifying a range in two parts

The walk over a range carries a sequence number, a hash to link to and a signature state.  For a
range that does not start at the first entry, the first two are set up from the range's bounds and
the row before it; the signature state starts afresh.  So without signatures a range is accepted
exactly if its two parts are (`rangeIntact_append`); with them, the part after the split must
continue the state the first part ends in (`sigPart_append`), and where it does not, the parts are
valid and the range is not (`ranges_compose_iff`).
-/
namespace Virp

open List HashChain

variable {C : Crypto} {parse : Bytes → Option Json} {v : Handle} {env : ReadEnv} {db : Db}

variable {s prev : Bytes} {b lo hi : Int} {l : List Entry}

variable {a c signed : Int} {e : Entry} {l' : List Entry}

/-- The rows of a range are those of its two parts. -/
theorem entriesRead_append (hab : a ≤ b) (hbc : b < c) :
    entriesRead v db s a c = entriesRead v db s a b ++ entriesRead v db s (b + 1) c := by
  have hsorted : (db.sessionRows s).Pairwise fun r r' => r.sequence ≤ r'.sequence :=
    pairwise_insertionSort _ _
  rw [entriesRead, entriesRead, entriesRead, ← map_append]
  exact congrArg (List.map _) (SortedSearch.filter_between_append hsorted hab hbc)

/-- What is read for a range has its sequence numbers. -/
theorem sequence_of_mem_entriesRead (h : e ∈ entriesRead v db s lo hi) :
    lo ≤ e.sequence ∧ e.sequence ≤ hi := by
  obtain ⟨r, hr, rfl⟩ := mem_map.mp h
  exact (mem_getRange.mp hr).2

theorem walkReads_append {seq : Int} {m n : Nat} :
    WalkReads env seq (m + n) ↔ WalkReads env seq m ∧ WalkReads env (seq + m) n := by
  constructor
  · intro h
    refine ⟨fun i hi => h i (by omega), fun i hi => ?_⟩
    have := h (m + i) (by omega)
    rwa [show seq + ((m + i : Nat) : Int) = seq + m + i by omega] at this
  · rintro ⟨h, h'⟩ i hi
    by_cases him : i ≤ m
    · exact h i him
    · have := h' (i - m) (by omega)
      rwa [show seq + (m : Int) + ((i - m : Nat) : Int) = seq + i by omega] at this

/-- The hash the part after a row must link to is that row's. -/
theorem expectedFirst_succ (hb : 0 ≤ b) (he : e ∈ entriesRead v db s lo hi) (hseq : e.sequence = b) :
    expectedFirst C env db s (b + 1) = some e.chainEntryHash.bytes := by
  obtain ⟨r, hr, rfl⟩ := mem_map.mp he
  have hrow : r ∈ db.sessionRows s := (mem_getRange.mp hr).1
  obtain ⟨hmem, hs⟩ := mem_sessionRows.mp hrow
  have hfind : db.entries.rows.find? (fun q => q.sessionId == s && q.sequence == b + 1 - 1) =
      some r := by
    cases hq : db.entries.rows.find? (fun q => q.sessionId == s && q.sequence == b + 1 - 1) with
    | none =>
      have := find?_eq_none.mp hq r hmem
      rw [← hseq] at this
      simp [hs, readEntryFromStmt] at this
    | some q =>
      have hprop := find?_some hq
      simp only [Bool.and_eq_true, beq_iff_eq] at hprop
      have hqs : q ∈ db.sessionRows s := mem_sessionRows.mpr ⟨mem_of_find?_eq_some hq, hprop.1⟩
      refine congrArg some (eq_of_sequence_eq hqs hrow ?_)
      rw [hprop.2, ← hseq]
      simp [readEntryFromStmt]
  rw [expectedFirst, if_neg (by omega), hfind]
  rfl

/-! ## Signatures -/

theorem sigAcceptedAll_append_iff {checkSigs : Bool} :
    SigAcceptedAll C v checkSigs signed (l ++ l') ↔ SigAcceptedAll C v checkSigs signed l ∧
      SigAcceptedAll C v checkSigs
        (signed + l.countP (fun e => checkSigs && e.chainSig.bytes != [])) l' := by
  induction l generalizing signed with
  | nil => simp [SigAcceptedAll]
  | cons e l ih =>
    have hcount : signed + ((e :: l).countP (fun e => checkSigs && e.chainSig.bytes != []) : Nat) =
        (signed + if checkSigs = true ∧ e.chainSig.bytes ≠ [] then 1 else 0) +
          (l.countP (fun e => checkSigs && e.chainSig.bytes != []) : Nat) := by
      rw [countP_cons]
      cases checkSigs <;> by_cases h : e.chainSig.bytes = [] <;> (simp [h]; try omega)
    simp only [cons_append, SigAcceptedAll, ih, hcount, and_assoc]

/-- After a signed entry a walk accepts what it accepts afresh and has no unsigned entry. -/
theorem sigAcceptedAll_pos_iff (hpos : 0 < signed) : SigAcceptedAll C v true signed l ↔
      SigAcceptedAll C v true 0 l ∧ ∀ e ∈ l.head?, e.chainSig.bytes ≠ [] := by
  constructor
  · intro h
    have hall := h.all_signed hpos
    have hok : ∀ e ∈ l, e.chainSig.bytes ≠ [] ∧ e.chainSigKeyId.bytes = verifyKeyIdHex C v ∧
        entrySigOk C v e = true := fun e he => ⟨hall e he, h.sig_ok he (hall e he)⟩
    exact ⟨sigAcceptedAll_signed hok 0, fun e he =>
      hall e (mem_of_mem_head? he)⟩
  · rintro ⟨h, hhead⟩
    cases l with
    | nil => trivial
    | cons e l =>
      have hsig : e.chainSig.bytes ≠ [] := hhead e rfl
      obtain ⟨haccept, hrest⟩ := h
      rw [if_pos ⟨rfl, hsig⟩] at hrest
      have hall := hrest.all_signed (by decide)
      refine ⟨fun _ => ⟨fun hnil => absurd hnil hsig, (haccept rfl).2⟩, ?_⟩
      have hok : ∀ e ∈ l, e.chainSig.bytes ≠ [] ∧ e.chainSigKeyId.bytes = verifyKeyIdHex C v ∧
          entrySigOk C v e = true := fun e he => ⟨hall e he, hrest.sig_ok he (hall e he)⟩
      exact sigAcceptedAll_signed hok _

/-- The first signed entry of a walk that starts unsigned. -/
def transition : List Entry → Option Entry
  | [] => none
  | e :: es =>
    if e.chainSig.bytes = [] then es.find? (fun e => e.chainSig.bytes != []) else none

/-- Signing had begun on the chain when the entry was written, and the verifier can tell. -/
def CutoverPassed (v : Handle) (env : ReadEnv) (db : Db) (e : Entry) : Prop :=
  env.fails e.sequence .cutover = false ∧ fromNTemporallyOk e.timestampNs (cutoverNs v db) = true

theorem transition_signed {ss : List Entry} (hss : ∀ e ∈ ss, e.chainSig.bytes ≠ []) :
    transition ss = none := by
  cases ss with
  | nil => rfl
  | cons e ss => exact if_neg (hss e mem_cons_self)

theorem transition_unsigned {us : List Entry} (hus : ∀ e ∈ us, e.chainSig.bytes = []) (hne : us ≠ [])
    (l : List Entry) : transition (us ++ l) = l.find? (fun e => e.chainSig.bytes != []) := by
  cases us with
  | nil => exact absurd rfl hne
  | cons e us =>
    obtain ⟨hsig, hus⟩ := forall_mem_cons.mp hus
    have hnone : us.find? (fun e => e.chainSig.bytes != []) = none := by
      simpa using hus
    rw [cons_append, transition, if_pos hsig, find?_append, hnone, Option.none_or]

/-- **The cutover test of a walk** is made at its transition. -/
theorem cutoverOk_iff {es : List Entry} (h0 : 0 ≤ lo) (hlinked : LinkedEntries lo prev es)
    (hsigs : SigAcceptedAll C v true 0 es) :
    CutoverOk v env db (es.foldl (Walk.next C parse v env db true) (.start lo prev)) ↔
      ∀ e ∈ transition es, CutoverPassed v env db e := by
  obtain ⟨us, ss, rfl, hus, hss⟩ := hsigs.split
  have hseq : ∀ e ∈ ss, 0 ≤ e.sequence := by
    intro e he
    have := (HashChain.Linked.seq_mem hlinked (mem_append_right _ he)).1
    omega
  rw [foldl_append, CutoverOk]
  obtain ⟨-, h2, h3⟩ := foldl_unsigned (C := C) (v := v) us hus (.start lo prev)
  obtain ⟨-, g2, g3, g4⟩ := foldl_signed (C := C) (v := v) ss hss hseq
    (us.foldl (Walk.next C parse v env db true) (.start lo prev))
  rw [g2, g3, g4, h2, h3]
  cases us with
  | nil => simp [Walk.start, transition_signed hss]
  | cons u us =>
    rw [transition_unsigned hus (cons_ne_nil _ _)]
    cases ss with
    | nil => simp [Walk.start]
    | cons e ss =>
      have hsig : e.chainSig.bytes ≠ [] := hss e mem_cons_self
      -- the first signed entry stands after an unsigned one
      have hpos : 0 < e.sequence := by
        have := (linked_append.mp hlinked).2.1
        simp only [length_cons] at this
        omega
      simp [Walk.start, hsig, hpos, CutoverPassed]

/-- A walk accepts the signatures of the entries. -/
def SigPart (C : Crypto) (v : Handle) (env : ReadEnv) (db : Db) (es : List Entry) : Prop :=
  SigAcceptedAll C v true 0 es ∧ ∀ e ∈ transition es, CutoverPassed v env db e

/-- The second part starts as the first part leaves off: signed, if it has signed entries; and if it
has none, a signed start is the transition of the whole and passes the cutover test. -/
def StateCarried (v : Handle) (env : ReadEnv) (db : Db) (l l' : List Entry) : Prop :=
  ∀ e ∈ l'.head?,
    ((∃ d ∈ l, d.chainSig.bytes ≠ []) → e.chainSig.bytes ≠ []) ∧
    ((∀ d ∈ l, d.chainSig.bytes = []) → e.chainSig.bytes ≠ [] → CutoverPassed v env db e)

/-- **The signatures of a range and of its parts.** -/
theorem sigPart_append (hl : l ≠ []) (hl' : l' ≠ []) : SigPart C v env db (l ++ l') ↔
      SigPart C v env db l ∧ SigPart C v env db l' ∧ StateCarried v env db l l' := by
  obtain ⟨e, rest, rfl⟩ := exists_cons_of_ne_nil hl'
  unfold SigPart StateCarried
  rw [sigAcceptedAll_append_iff]
  simp only [Bool.true_and, Int.zero_add, head?_cons, Option.mem_def, Option.some.injEq,
    forall_eq']
  by_cases hsigned : ∃ d ∈ l, d.chainSig.bytes ≠ []
  · -- the first part decides the transition, and the second has to be signed
    have hpos : (0 : Int) < (l.countP (fun e => e.chainSig.bytes != []) : Nat) := by
      obtain ⟨d, hd, hsig⟩ := hsigned
      have : 0 < l.countP (fun e => e.chainSig.bytes != []) :=
        countP_pos_iff.mpr ⟨d, hd, by simpa using hsig⟩
      omega
    have htransition : transition (l ++ e :: rest) = transition l := by
      obtain ⟨d, l, rfl⟩ := exists_cons_of_ne_nil hl
      by_cases hd : d.chainSig.bytes = []
      · obtain ⟨d', hd', hsig⟩ := hsigned
        have hsome : (l.find? (fun e => e.chainSig.bytes != [])).isSome = true := by
          rw [find?_isSome]
          rcases mem_cons.mp hd' with rfl | hd'
          · exact absurd hd hsig
          · exact ⟨d', hd', by simpa using hsig⟩
        rw [cons_append, transition, transition, if_pos hd, if_pos hd, find?_append,
          Option.or_of_isSome hsome]
      · rw [cons_append, transition, transition, if_neg hd, if_neg hd]
    have hnot : ¬ ∀ d ∈ l, d.chainSig.bytes = [] := by
      rintro hall
      obtain ⟨d, hd, hsig⟩ := hsigned
      exact hsig (hall d hd)
    rw [sigAcceptedAll_pos_iff hpos, htransition]
    simp only [head?_cons, Option.mem_def, Option.some.injEq, forall_eq', hsigned, hnot,
      true_imp_iff, false_imp_iff, and_true]
    constructor
    · rintro ⟨⟨h1, h2, h3⟩, h4⟩
      refine ⟨⟨h1, h4⟩, ⟨h2, ?_⟩, h3⟩
      simp [transition, h3]
    · rintro ⟨⟨h1, h4⟩, ⟨h2, -⟩, h3⟩
      exact ⟨⟨h1, h2, h3⟩, h4⟩
  · have hall : ∀ d ∈ l, d.chainSig.bytes = [] := by
      intro d hd
      by_contra hsig
      exact hsigned ⟨d, hd, hsig⟩
    have hzero : l.countP (fun e => e.chainSig.bytes != []) = 0 :=
      countP_eq_zero.mpr fun d hd => by simp [hall d hd]
    have hnone : transition l = none := by
      have := transition_unsigned hall hl []
      simpa using this
    rw [hzero, transition_unsigned hall hl, hnone]
    by_cases hsig : e.chainSig.bytes = []
    · -- the transition of the second part is that of the whole
      simp [hsig, transition]
      tauto
    · -- the second part starts at the transition of the whole and does not test it
      simp [hsig, transition]
      tauto

/-! ## Ranges -/

/-- What a valid verdict on a range says apart from signatures. -/
structure RangeIntact (C : Crypto) (parse : Bytes → Option Json) (v : Handle) (env : ReadEnv) (db : Db)
    (s : Bytes) (lo hi : Int) (prev : Bytes) : Prop where
  nonneg : 0 ≤ lo
  le : lo ≤ hi
  first : expectedFirst C env db s lo = some prev
  reads : WalkReads env lo (entriesRead v db s lo hi).length
  linked : LinkedEntries lo prev (entriesRead v db s lo hi)
  authentic : ∀ e ∈ entriesRead v db s lo hi, Authentic C parse v env db e
  complete : ((entriesRead v db s lo hi).length : Int) = hi - lo + 1

theorem rangeAccepted_iff : RangeAccepted C parse v env db s lo hi prev ↔
      RangeIntact C parse v env db s lo hi prev ∧
      (checksSigs C v db s = true → SigPart C v env db (entriesRead v db s lo hi)) := by
  constructor
  · intro h
    refine ⟨⟨h.nonneg, h.le, h.first, h.reads, h.linked, h.authentic, h.complete⟩, fun hc => ?_⟩
    have hsigs := h.sigs
    have hcut := h.cutover
    rw [hc] at hsigs hcut
    exact ⟨hsigs, (cutoverOk_iff h.nonneg h.linked hsigs).mp hcut⟩
  · rintro ⟨h, hpart⟩
    refine ⟨h.nonneg, h.le, h.first, h.reads, h.linked, h.authentic, ?_, h.complete, ?_⟩
    · cases hc : checksSigs C v db s with
      | false => exact sigAcceptedAll_false _ _
      | true => exact (hpart hc).1
    cases hc : checksSigs C v db s with
    | false =>
      intro hprefixed
      rw [foldl_unsignedPrefix] at hprefixed
      cases hprefixed
    | true => exact (cutoverOk_iff h.nonneg h.linked (hpart hc).1).mpr (hpart hc).2

/-- The entries of an intact range are numbered up to its end. -/
theorem RangeIntact.ne_nil (h : RangeIntact C parse v env db s lo hi prev) :
    entriesRead v db s lo hi ≠ [] := by
  intro hnil
  have hlen := h.complete
  have hle := h.le
  rw [hnil] at hlen
  simp only [length_nil, Nat.cast_zero] at hlen
  omega

/-- The hash after an intact range is that of its last row. -/
theorem RangeIntact.expectedFirst_next (h : RangeIntact C parse v env db s lo hi prev) :
    expectedFirst C env db s (hi + 1) =
      some (HashChain.tip (fun e : Entry => e.chainEntryHash.bytes) prev (entriesRead v db s lo hi)) := by
  obtain ⟨es, e, hes⟩ := (eq_nil_or_concat' _).resolve_left h.ne_nil
  have hlinked := h.linked
  have hlen := h.complete
  have h0 := h.nonneg
  have hle := h.le
  rw [LinkedEntries, hes, linked_concat] at hlinked
  rw [hes, length_append, length_singleton] at hlen
  rw [hes, tip_concat]
  refine expectedFirst_succ (by omega) (hes ▸ mem_append_right _ mem_cons_self) ?_
  rw [hlinked.2.1]
  push_cast at hlen
  omega

/-- Entries linked over a whole range stand on both sides of a split as they should. -/
theorem length_of_linked (hab : a ≤ b) (hbc : b < c)
    (hlinked : LinkedEntries a prev (entriesRead v db s a b ++ entriesRead v db s (b + 1) c))
    (hlen : ((entriesRead v db s a b ++ entriesRead v db s (b + 1) c).length : Int) = c - a + 1) :
    ((entriesRead v db s a b).length : Int) = b - a + 1 := by
  obtain ⟨hfirst, hsecond⟩ := linked_append.mp hlinked
  rw [length_append, Nat.cast_add] at hlen
  have hle : ((entriesRead v db s a b).length : Int) ≤ b - a + 1 := by
    rcases eq_nil_or_concat' (entriesRead v db s a b) with hnil | ⟨es, e, hes⟩
    · rw [hnil]
      simp only [length_nil, Nat.cast_zero]
      omega
    have hmem : e ∈ entriesRead v db s a b := hes ▸ mem_append_right _ mem_cons_self
    have hseq := (sequence_of_mem_entriesRead hmem).2
    rw [hes, linked_concat] at hfirst
    rw [hes, length_append, length_singleton]
    push_cast
    omega
  cases hes : entriesRead v db s (b + 1) c with
  | nil =>
    rw [hes, length_nil] at hlen
    push_cast at hlen
    omega
  | cons e es =>
    have hmem : e ∈ entriesRead v db s (b + 1) c := hes ▸ mem_cons_self
    have hseq := (sequence_of_mem_entriesRead hmem).1
    rw [hes] at hsecond
    have := hsecond.1
    omega

/-- **Without signatures a range is its two parts.** -/
theorem rangeIntact_append (hab : a ≤ b) (hbc : b < c) :
    (∃ prev, RangeIntact C parse v env db s a c prev) ↔
      (∃ prev, RangeIntact C parse v env db s a b prev) ∧
      ∃ prev, RangeIntact C parse v env db s (b + 1) c prev := by
  have hes : entriesRead v db s a c = entriesRead v db s a b ++ entriesRead v db s (b + 1) c :=
    entriesRead_append hab hbc
  constructor
  · rintro ⟨prev, h⟩
    have hlinked := h.linked
    have hreads := h.reads
    have hauth := h.authentic
    have hlen := h.complete
    have h0 := h.nonneg
    rw [hes] at hlinked hreads hauth hlen
    have hfirst := length_of_linked hab hbc hlinked hlen
    rw [length_append, Nat.cast_add] at hlen
    rw [length_append, walkReads_append, hfirst] at hreads
    obtain ⟨hl, hl'⟩ := linked_append.mp hlinked
    rw [hfirst] at hl'
    have hstart : a + (b - a + 1) = b + 1 := by omega
    rw [hstart] at hl' hreads
    have hintact : RangeIntact C parse v env db s a b prev :=
      ⟨h0, hab, h.first, hreads.1, hl, fun e he => hauth e (mem_append_left _ he), hfirst⟩
    exact ⟨⟨prev, hintact⟩, _, by omega, by omega, hintact.expectedFirst_next, hreads.2, hl',
      fun e he => hauth e (mem_append_right _ he), by omega⟩
  · rintro ⟨⟨prev, h⟩, prev', h'⟩
    obtain rfl := Option.mem_unique h.expectedFirst_next h'.first
    have hlen := h.complete
    have hlen' := h'.complete
    have hstart : a + ((entriesRead v db s a b).length : Int) = b + 1 := by omega
    refine ⟨prev, h.nonneg, by omega, h.first, ?_, ?_, ?_, ?_⟩
    · rw [hes, length_append, walkReads_append, hstart]
      exact ⟨h.reads, h'.reads⟩
    · rw [hes]
      refine linked_append.mpr ⟨h.linked, ?_⟩
      rw [hstart]
      exact h'.linked
    · rw [hes]
      exact forall_mem_append.mpr ⟨h.authentic, h'.authentic⟩
    · rw [hes, length_append, Nat.cast_add]
      omega

/-- The two parts are accepted by themselves and the second does not continue the first. -/
def StateLost (C : Crypto) (v : Handle) (env : ReadEnv) (db : Db) (l l' : List Entry) : Prop :=
  SigPart C v env db l ∧ SigPart C v env db l' ∧ ¬ StateCarried v env db l l'

/-- **Exactly when a range is verified part by part**: unless signatures are graded, the range is
intact apart from them, and the signature state of the first part is lost at the split. -/
theorem ranges_compose_iff {s : Bytes} {a b c : Int} (hab : a ≤ b) (hbc : b < c) :
    ((chainVerifyLocked C parse v env db s a c).1.valid = true ↔
        (chainVerifyLocked C parse v env db s a b).1.valid = true ∧
        (chainVerifyLocked C parse v env db s (b + 1) c).1.valid = true) ↔
      ¬ ((∃ prev, RangeIntact C parse v env db s a c prev) ∧ checksSigs C v db s = true ∧
        StateLost C v env db (entriesRead v db s a b) (entriesRead v db s (b + 1) c)) := by
  have hes : entriesRead v db s a c = entriesRead v db s a b ++ entriesRead v db s (b + 1) c :=
    entriesRead_append hab hbc
  simp only [chainVerifyLocked_range_iff, rangeAccepted_iff, exists_and_right]
  rw [rangeIntact_append hab hbc]
  by_cases hintact : (∃ prev, RangeIntact C parse v env db s a b prev) ∧
      ∃ prev, RangeIntact C parse v env db s (b + 1) c prev
  · obtain ⟨⟨prev, h⟩, prev', h'⟩ := hintact
    have hpart : SigPart C v env db (entriesRead v db s a c) ↔ _ :=
      hes ▸ sigPart_append h.ne_nil h'.ne_nil
    have hleft : ∃ prev, RangeIntact C parse v env db s a b prev := ⟨prev, h⟩
    have hright : ∃ prev, RangeIntact C parse v env db s (b + 1) c prev := ⟨prev', h'⟩
    simp only [hpart, StateLost, hleft, hright, true_and]
    constructor
    · rintro hcompose ⟨hchecks, hl, hl', hlost⟩
      exact hlost (hcompose.mpr ⟨fun _ => hl, fun _ => hl'⟩ hchecks).2.2
    · intro hkept
      refine ⟨fun hsigs => ⟨fun hc => (hsigs hc).1, fun hc => (hsigs hc).2.1⟩, ?_⟩
      rintro ⟨hl, hl'⟩ hchecks
      exact ⟨hl hchecks, hl' hchecks,
        by_contra fun hlost => hkept ⟨hchecks, hl hchecks, hl' hchecks, hlost⟩⟩
  · refine iff_of_true (iff_of_false (fun h => hintact h.1) ?_) fun h => hintact h.1
    exact fun h => hintact ⟨h.1.1, h.2.1⟩

namespace Sample

/-- The signed session with the signature of its second entry removed. -/
def strippedSecond (db : Db) : Db :=
  { db with
    entries := (db.entries.rows.map (fun r => if r.sequence = 1 then r.unsigned else r)).foldl
      Table.insertOrIgnore .empty }

end Sample

open Sample in
/-- The signed session is verified part by part. -/
theorem ranges_compose_iff_signed :
    checksSigs sigCrypto sigVerifier (run sigCrypto sigOps).store.committed (text "s1") = true ∧
    ((chainVerifyLocked sigCrypto parseCitation sigVerifier readEnv
        (run sigCrypto sigOps).store.committed (text "s1") 0 1).1.valid = true ↔
      (chainVerifyLocked sigCrypto parseCitation sigVerifier readEnv
        (run sigCrypto sigOps).store.committed (text "s1") 0 0).1.valid = true ∧
      (chainVerifyLocked sigCrypto parseCitation sigVerifier readEnv
        (run sigCrypto sigOps).store.committed (text "s1") 1 1).1.valid = true) := by
  obtain ⟨hchecks, hfirst, hsecond, hsome⟩ :
      checksSigs sigCrypto sigVerifier (run sigCrypto sigOps).store.committed (text "s1") = true ∧
      (∀ e ∈ entriesRead sigVerifier (run sigCrypto sigOps).store.committed (text "s1") 0 0,
        e.chainSig.bytes ≠ []) ∧
      (∀ e ∈ entriesRead sigVerifier (run sigCrypto sigOps).store.committed (text "s1") 1 1,
        e.chainSig.bytes ≠ []) ∧
      entriesRead sigVerifier (run sigCrypto sigOps).store.committed (text "s1") 0 0 ≠ [] := by
    decide +kernel
  generalize (run sigCrypto sigOps).store.committed = db at *
  refine ⟨hchecks, (ranges_compose_iff (Int.le_refl 0) Int.zero_lt_one).mpr ?_⟩
  rintro ⟨-, -, -, -, hlost⟩
  refine hlost fun e he => ⟨fun _ => hsecond e (mem_of_mem_head? he), fun hall => ?_⟩
  obtain ⟨d, hd⟩ := exists_mem_of_ne_nil _ hsome
  exact absurd (hall d hd) (hfirst d hd)

open Sample in
/-- **A stripped signature that both parts accept.**  The second of two signatures is removed: the
range of both entries is invalid, and each entry by itself is a valid range. -/
theorem stripped_range_accepted_in_parts :
    (chainVerifyLocked sigCrypto parseCitation sigVerifier readEnv
      (strippedSecond (run sigCrypto sigOps).store.committed) (text "s1") 0 1).1.valid = false ∧
    (chainVerifyLocked sigCrypto parseCitation sigVerifier readEnv
      (strippedSecond (run sigCrypto sigOps).store.committed) (text "s1") 0 0).1.valid = true ∧
    (chainVerifyLocked sigCrypto parseCitation sigVerifier readEnv
      (strippedSecond (run sigCrypto sigOps).store.committed) (text "s1") 1 1).1.valid = true := by
  decide +kernel

end Virp
