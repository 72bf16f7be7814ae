import Virp.ChainVerdict
import Mathlib.Data.List.Lex

/-! # When evidence records agree

The verifier looks closers and cited approvals up in sorted arrays by binary
search.  Here the lookups are replaced by what they compute: the rows of the
database that cite a hash (`closersCiting`, `intentsCiting`).  `EvidenceAgrees` is
the verifier's demand on an evidence record in those terms, and `evidenceOk_iff`
says that the grading decides it when no query fails.
-/
namespace Virp

open List UInt8

variable {x y : Bytes}

/-- `strcmp` compares lexicographically. -/
theorem strcmp_lt_iff : strcmp x y = .lt ↔ x.map UInt8.toNat < y.map UInt8.toNat := by
  induction x generalizing y with
  | nil => cases y <;> simp [strcmp]
  | cons a x ih =>
    cases y with
    | nil => simp [strcmp]
    | cons b y =>
      rw [strcmp, map_cons, map_cons, cons_lt_cons_iff, ← ih]
      simp only [lt_iff_toNat_lt]
      rcases Nat.lt_trichotomy a.toNat b.toNat with h | h | h
      · simp [h]
      · simp [h]
      · simp [h, Nat.lt_asymm h, Nat.ne_of_gt h]

theorem strcmp_swap (x y : Bytes) : strcmp y x = (strcmp x y).swap := by
  induction x generalizing y with
  | nil => cases y <;> rfl
  | cons a x ih =>
    cases y with
    | nil => rfl
    | cons b y =>
      rw [strcmp, strcmp, ih]
      simp only [lt_iff_toNat_lt]
      rcases Nat.lt_trichotomy a.toNat b.toNat with h | h | h
      · simp [h, Nat.lt_asymm h]
      · simp [h]
      · simp [h, Nat.lt_asymm h]

theorem strcmp_gt_iff : strcmp x y = .gt ↔ y.map UInt8.toNat < x.map UInt8.toNat := by
  rw [← strcmp_lt_iff, strcmp_swap x y]
  cases strcmp x y <;> simp

theorem strcmp_ne_gt_iff : strcmp x y ≠ .gt ↔ x.map UInt8.toNat ≤ y.map UInt8.toNat := by
  rw [Ne, strcmp_gt_iff, not_lt]

theorem strcmp_eq_iff : strcmp x y = .eq ↔ x = y := by
  constructor
  · intro h
    have hle : x.map UInt8.toNat ≤ y.map UInt8.toNat := strcmp_ne_gt_iff.mp (by simp [h])
    have hge : y.map UInt8.toNat ≤ x.map UInt8.toNat :=
      strcmp_ne_gt_iff.mp (by simp [strcmp_swap x y, h])
    exact map_injective_iff.mpr (fun a b => UInt8.toNat_inj.mp) (le_antisymm hle hge)
  · rintro rfl
    induction x with
    | nil => rfl
    | cons a x ih => simp [strcmp, ih]

theorem rank_strcmp_mono (h : strcmp x y ≠ .gt) (k : Bytes) :
    SortedSearch.rank (strcmp x k) ≤ SortedSearch.rank (strcmp y k) := by
  rw [strcmp_ne_gt_iff] at h
  cases hx : strcmp x k with
  | lt => exact Nat.zero_le _
  | eq =>
    obtain rfl := strcmp_eq_iff.mp hx
    cases hy : strcmp y x with
    | lt => exact absurd (strcmp_lt_iff.mp hy) (not_lt.mpr h)
    | eq => exact Nat.le_refl _
    | gt => decide
  | gt => rw [strcmp_gt_iff.mpr ((strcmp_gt_iff.mp hx).trans_le h)]

section
variable {α : Type} (key : α → Bytes) (l : List α)

/-- An array sorted by a key is sorted for every search by that key. -/
theorem sorted_insertionSort (k : Bytes) : SortedSearch.Sorted (fun x => strcmp (key x) k)
      (l.insertionSort (fun a b => strcmp (key a) (key b) ≠ .gt)) := by
  have htotal : Std.Total (fun a b : α => strcmp (key a) (key b) ≠ .gt) :=
    ⟨fun a b => by simpa only [strcmp_ne_gt_iff] using le_total _ _⟩
  have htrans : IsTrans α (fun a b : α => strcmp (key a) (key b) ≠ .gt) := ⟨fun a b c hab hbc => by
      rw [strcmp_ne_gt_iff] at hab hbc ⊢
      exact hab.trans hbc⟩
  exact (pairwise_insertionSort _ l).imp (fun h => rank_strcmp_mono h k)

/-- The search counts the elements with the key. -/
theorem countP_insertionSort (k : Bytes) :
    (l.insertionSort (fun a b => strcmp (key a) (key b) ≠ .gt)).countP
        (fun x => strcmp (key x) k == .eq) = (l.filter (fun x => key x == k)).length := by
  rw [(perm_insertionSort _ l).countP_eq, countP_eq_length_filter]
  congr 2
  funext x
  rw [Bool.eq_iff_iff, beq_iff_eq, beq_iff_eq, strcmp_eq_iff]

end

section
variable (parse : Bytes → Option Json) (db : Db)

/-- The closers of the database that cite an entry hash. -/
def closersCiting (hash : Bytes) : List CloserRef :=
  (db.entries.rows.filterMap (closerRef parse db)).filter (fun ref => ref.cited == hash)

/-- The intent rows of the database that cite an approval. -/
def intentsCiting (aeh : Bytes) : List EntryRow :=
  db.entries.rows.filter (fun r => intentApproval parse db r == some aeh)

theorem closersOf_fst (hash : Bytes) :
    (closersOf parse db hash).1 = (closersCiting parse db hash).length := by
  have hsorted := sorted_insertionSort CloserRef.cited
    (db.entries.rows.filterMap (closerRef parse db)) hash
  have hcount := SortedSearch.matchBlock_count hsorted
  rw [countP_insertionSort] at hcount
  rw [closersCiting, ← hcount]
  unfold closersOf closerMap
  split
  · rename_i h
    rw [h]
    rfl
  · rename_i lo n h
    rw [h]
    rfl

/-- The closer the lookup hands to the grading cites the hash. -/
theorem closersOf_snd {hash : Bytes} (h : (closersOf parse db hash).1 ≠ 0) :
    ∃ ref ∈ closersCiting parse db hash, (closersOf parse db hash).2 = some ref := by
  have hsorted := sorted_insertionSort CloserRef.cited
    (db.entries.rows.filterMap (closerRef parse db)) hash
  unfold closersOf at h ⊢
  cases hm : SortedSearch.matchBlock (fun x : CloserRef => strcmp x.cited hash)
      (closerMap parse db) with
  | none =>
    rw [hm] at h
    exact absurd rfl h
  | some p =>
    obtain ⟨lo, n⟩ := p
    obtain ⟨ref, hget, heq⟩ := SortedSearch.matchBlock_first hsorted hm
    refine ⟨ref, ?_, hget⟩
    have hmem : ref ∈ db.entries.rows.filterMap (closerRef parse db) :=
      (mem_insertionSort _).mp (mem_of_getElem? hget)
    exact mem_filter.mpr ⟨hmem, by simpa using strcmp_eq_iff.mp heq⟩

/-- The citations of an approval are those of the intent rows that cite it. -/
theorem length_filter_intentApproval (aeh : Bytes) :
    ((db.entries.rows.filterMap (intentApproval parse db)).filter (fun x => id x == aeh)).length =
      (intentsCiting parse db aeh).length := by
  rw [intentsCiting]
  generalize db.entries.rows = rows
  induction rows with
  | nil => rfl
  | cons r rows ih =>
    cases ha : intentApproval parse db r with
    | none => simpa [ha] using ih
    | some x => by_cases hx : x = aeh <;> simpa [ha, hx] using ih

/-- **The count of intents for an approval** is the number of intent rows that cite
it. -/
theorem countIntentsForApproval_eq {aeh : Field 65} (h : aeh.bytes ≠ []) :
    countIntentsForApproval parse db aeh = (intentsCiting parse db aeh.bytes).length := by
  have hsorted := sorted_insertionSort id (db.entries.rows.filterMap (intentApproval parse db))
    aeh.bytes
  have hcount := SortedSearch.matchBlock_count hsorted
  rw [countP_insertionSort] at hcount
  rw [countIntentsForApproval, if_neg h]
  exact hcount.trans (length_filter_intentApproval parse db aeh.bytes)

/-! ## Agreement -/

variable (e : Entry)

/-- The parsed body of an entry's row. -/
def bodyOfEntry : Option Json := (bodyByEntryHash db e.chainEntryHash.bytes).bind parse

/-- The approval an intent entry cites. -/
def citedApproval : Option Bytes :=
  (bodyOfEntry parse db e).bind (·.strNonempty (text "approval_entry_hash") 65)

/-- The entry hash a closer entry cites. -/
def citedIntent : Option Bytes :=
  (bodyOfEntry parse db e).bind (·.strNonempty (text "intent_entry_hash") 65)

/-- The parsed body of a closer. -/
def closerBody (ref : CloserRef) : Option Json :=
  (db.entries.rows.find? (·.rowid == ref.rowid)).bind (parsedBody parse db)

/-- An intent is in order: no other intent cites its approval, at most one closer
cites it, and that closer does not contradict it. -/
structure IntentAgrees (e : Entry) : Prop where
  approval : ∀ aeh, citedApproval parse db e = some aeh → (intentsCiting parse db aeh).length ≤ 1
  closers : (closersCiting parse db e.chainEntryHash.bytes).length ≤ 1
  binding : ∀ ref ∈ closersCiting parse db e.chainEntryHash.bytes, ∀ intent closer,
    bodyOfEntry parse db e = some intent → closerBody parse db ref = some closer →
      closerBindingMismatch intent ref.type closer = false

/-- A closer is in order: what it cites is an intent. -/
def CloserAgrees : Prop :=
  ∀ cited, citedIntent parse db e = some cited →
    ∃ r, db.entryByHash cited = some r ∧ cstr r.artifactType = text "gate_intent"

/-- What the verifier demands of an evidence record. -/
structure EvidenceAgrees (e : Entry) : Prop where
  intent : e.artifactType.bytes = text "gate_intent" → IntentAgrees parse db e
  closer : typeIsCloser e.artifactType.bytes = true → CloserAgrees parse db e

end

section
variable {parse : Bytes → Option Json} {env : ReadEnv} {db : Db}

theorem strNonempty_ne_nil {o : Json} {key : Bytes} {cap : Nat} (h : o.strNonempty key cap = some x) :
    x ≠ [] := by
  unfold Json.strNonempty at h
  split at h
  · cases h
    exact cons_ne_nil _ _
  · cases h

theorem strNonempty_fits {o : Json} {key : Bytes} {cap : Nat} (h : o.strNonempty key cap = some x) :
    snprintfS cap x = x := by
  unfold Json.strNonempty at h
  split at h
  · rename_i b s hs
    cases h
    unfold Json.str at hs
    split at hs
    · rw [← Option.some.inj hs, snprintfS_snprintfS]
    · cases hs
  · cases h

section
variable (hf : env.Fine)
include hf

variable (e : Entry)

theorem evidenceBody_of_fine :
    evidenceBody env db e = bodyByEntryHash db e.chainEntryHash.bytes := by
  rw [evidenceBody, hf, if_neg Bool.false_ne_true]

theorem doubleSpent_iff : doubleSpent parse env db e.sequence (bodyOfEntry parse db e) = false ↔
      ∀ aeh, citedApproval parse db e = some aeh → (intentsCiting parse db aeh).length ≤ 1 := by
  unfold doubleSpent
  rw [show (bodyOfEntry parse db e).bind (·.strNonempty (text "approval_entry_hash") 65) =
    citedApproval parse db e from rfl]
  cases ha : citedApproval parse db e with
  | none => simp
  | some aeh =>
    obtain ⟨o, -, ho⟩ := Option.bind_eq_some_iff.mp ha
    have hfit : (Field.copy 65 aeh).bytes = aeh := strNonempty_fits ho
    have hne : (Field.copy 65 aeh).bytes ≠ [] := by
      rw [hfit]
      exact strNonempty_ne_nil ho
    simp [hf e.sequence .intentMap, countIntentsForApproval_eq parse db hne, strNonempty_fits ho]

theorem bindingBad_iff (seq : Int) (intent : Option Json) (ref : CloserRef) :
    bindingBad parse env db seq intent (some ref) = false ↔
      ∀ i closer, intent = some i → closerBody parse db ref = some closer →
        closerBindingMismatch i ref.type closer = false := by
  unfold bindingBad
  cases intent with
  | none => simp
  | some i =>
    simp only [hf seq .closerBody, Bool.false_eq_true, if_false, closerBody]
    cases (db.entries.rows.find? (·.rowid == ref.rowid)).bind (parsedBody parse db) <;> simp

/-- How an intent is graded: it is not broken exactly when it is in order, and then
it counts as closed exactly when a closer cites it. -/
theorem gradeIntent_spec :
    (IntentAgrees parse db e → gradeIntent parse env db e (bodyByEntryHash db e.chainEntryHash.bytes) =
      if closersCiting parse db e.chainEntryHash.bytes = [] then .isOpen else .isClosed) ∧
    (¬ IntentAgrees parse db e →
      ∃ why, gradeIntent parse env db e (bodyByEntryHash db e.chainEntryHash.bytes) = .broken why) := by
  have hspend := @doubleSpent_iff parse env db hf e
  unfold gradeIntent
  rw [show (bodyByEntryHash db e.chainEntryHash.bytes).bind parse = bodyOfEntry parse db e from rfl]
  simp only [hf e.sequence .closerMap, closersOf_fst, Bool.false_eq_true, if_false]
  cases hd : doubleSpent parse env db e.sequence (bodyOfEntry parse db e) with
  | true =>
    rw [hd] at hspend
    refine ⟨fun h => absurd (hspend.mpr h.approval) (by simp), fun _ => ⟨.doubleSpend, if_pos rfl⟩⟩
  | false =>
    have happroval := hspend.mp hd
    simp only [Bool.false_eq_true, if_false]
    cases hc : closersCiting parse db e.chainEntryHash.bytes with
    | nil =>
      have hagree : IntentAgrees parse db e := ⟨happroval, by simp [hc], by simp [hc]⟩
      exact ⟨fun _ => by simp, fun h => absurd hagree h⟩
    | cons ref rest =>
      cases rest with
      | cons ref' rest =>
        refine ⟨fun h => absurd h.closers (by simp [hc]), fun _ => ⟨.twoClosers, if_pos (by simp)⟩⟩
      | nil =>
        obtain ⟨ref', hmem, hsnd⟩ := closersOf_snd parse db
          (show (closersOf parse db e.chainEntryHash.bytes).1 ≠ 0 by simp [closersOf_fst, hc])
        obtain rfl : ref' = ref := by simpa [hc] using hmem
        have hbind := @bindingBad_iff parse env db hf e.sequence (bodyOfEntry parse db e) ref'
        have hagree : IntentAgrees parse db e ↔
            bindingBad parse env db e.sequence (bodyOfEntry parse db e) (some ref') = false := by
          rw [hbind]
          constructor
          · exact fun h => h.binding ref' (by simp [hc])
          · exact fun h => ⟨happroval, by simp [hc], by simpa [hc] using h⟩
        rw [hagree, hsnd]
        cases hb : bindingBad parse env db e.sequence (bodyOfEntry parse db e) (some ref') <;> simp

theorem gradeCloser_iff :
    gradeCloser parse env db e (bodyByEntryHash db e.chainEntryHash.bytes) = none ↔
      CloserAgrees parse db e := by
  unfold gradeCloser CloserAgrees
  rw [show ((bodyByEntryHash db e.chainEntryHash.bytes).bind parse).bind
    (·.strNonempty (text "intent_entry_hash") 65) = citedIntent parse db e from rfl]
  cases hcite : citedIntent parse db e with
  | none => simp
  | some cited =>
    simp only [hf e.sequence .hashIsIntent, Bool.false_eq_true, if_false, Option.some.injEq]
    cases hrow : db.entryByHash cited with
    | none => simp [hrow]
    | some r => simp [hrow]

/-- **The evidence grading decides agreement** when no query fails. -/
theorem evidenceOk_iff : evidenceOk parse env db e = true ↔ EvidenceAgrees parse db e := by
  unfold evidenceOk
  rw [evidenceBody_of_fine hf]
  by_cases hi : e.artifactType.bytes = text "gate_intent"
  · have hcl : typeIsCloser e.artifactType.bytes = false := by
      rw [hi]
      decide
    obtain ⟨hyes, hno⟩ := @gradeIntent_spec parse env db hf e
    rw [if_pos hi]
    by_cases ha : IntentAgrees parse db e
    · rw [hyes ha]
      refine ⟨fun _ => ⟨fun _ => ha, by simp [hcl]⟩, fun _ => ?_⟩
      split_ifs <;> rfl
    · obtain ⟨why, hw⟩ := hno ha
      rw [hw]
      exact ⟨fun h => absurd h (by simp), fun h => absurd (h.intent hi) ha⟩
  · rw [if_neg hi]
    by_cases hc : typeIsCloser e.artifactType.bytes = true
    · rw [if_pos hc, Option.isNone_iff_eq_none, gradeCloser_iff hf]
      exact ⟨fun h => ⟨fun h' => absurd h' hi, fun _ => h⟩, fun h => h.closer hc⟩
    · rw [if_neg hc]
      exact ⟨fun _ => ⟨fun h => absurd h hi, fun h => absurd h hc⟩, fun _ => rfl⟩

end

end

end Virp
