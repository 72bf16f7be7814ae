import Virp.ChainClosers
import Virp.Library.Machine

/-! # The lookup maps of a verification

Closers and cited approvals are collected once per walk, sorted, and then searched for every entry
that is graded.  The maps are built on first use and freed when the walk ends; an append frees
them too, and the apply-time count of intents builds its own.  So every lookup answers what a scan
over the rows, joined with their bodies, would answer at that moment, whichever of several equal
references the search happens to hit (`lookups_agree_with_scan`).  The counts are handed on as an
`int`.
-/
namespace Virp

open SortedSearch List

/-- `(int)n`. -/
def int32OfNat (n : Nat) : Int := toColumn 32 (n % 2 ^ 32)

theorem int32OfNat_eq_iff {n : Nat} : int32OfNat n = n ↔ n < 2 ^ 31 := by
  unfold int32OfNat toColumn
  split <;> omega

/-- `closer_map` and `intent_map` of the handle, where they are built. -/
structure LookupMaps where
  closers : Option (List CloserRef)
  intents : Option (List Bytes)

/-- `chain_maps_free`. -/
def LookupMaps.freed : LookupMaps := ⟨none, none⟩

/-- A lookup while a walk grades an entry; `fails` says that building the map would fail. -/
inductive Lookup where
  | closers (hash : Field 65) (fails : Bool)
  | intents (aeh : Field 65) (fails : Bool)

def Lookup.fails : Lookup → Bool
  | closers _ f => f
  | intents _ f => f

/-- What a lookup finds: how many references, and the first of them in the map. -/
structure Found where
  count : Int
  first : Option CloserRef

section Steps

variable (L : SearchLib) (parse : Bytes → Option Json) (db : Db)

/-- `cmp_closer_ref`, `cmp_intent_ref`. -/
def compareBy {α : Type} (key : α → Bytes) (a b : α) : Ordering := strcmp (key a) (key b)

/-- `chain_build_closer_map_locked`. -/
def buildCloserMap (fails : Bool) (m : LookupMaps) : Option (List CloserRef) :=
  match m.closers with
  | some arr => some arr
  | none =>
    if fails then none
    else some (L.qsort (compareBy CloserRef.cited)
      (db.entries.rows.filterMap (closerRef parse db)))

/-- `chain_build_intent_map_locked`. -/
def buildIntentMap (fails : Bool) (m : LookupMaps) : Option (List Bytes) :=
  match m.intents with
  | some arr => some arr
  | none =>
    if fails then none
    else some (L.qsort (compareBy id) (db.entries.rows.filterMap (intentApproval parse db)))

/-- Search the map and walk to both sides. -/
def searchMap {α : Type} (key : α → Bytes) (arr : List α) (k : Bytes) : Option (Nat × Nat) :=
  blockAround (fun x => strcmp (key x) k) arr (L.bsearch (fun x => strcmp (key x) k) arr)

/-- One lookup.  `none` is a map that could not be built. -/
def lookupStep (m : LookupMaps) : Lookup → LookupMaps × Option Found
  | .closers hash fails =>
    match buildCloserMap L parse db fails m with
    | none => (m, none)
    | some arr =>
      ({ m with closers := some arr },
        match searchMap L CloserRef.cited arr hash.bytes with
        | none => some ⟨0, none⟩
        | some (lo, n) => some ⟨int32OfNat n, arr[lo]?⟩)
  | .intents aeh fails =>
    if aeh.bytes = [] then (m, some ⟨0, none⟩)
    else
      match buildIntentMap L parse db fails m with
      | none => (m, none)
      | some arr =>
        ({ m with intents := some arr },
          match searchMap L id arr aeh.bytes with
          | none => some ⟨0, none⟩
          | some (_, n) => some ⟨int32OfNat n, none⟩)

end Steps

/-! ## One lookup -/

section Lookups

variable {L : SearchLib} {parse : Bytes → Option Json} {db : Db}

/-- A map that is built holds what it would hold if it were built now. -/
structure LookupMaps.Fresh (L : SearchLib) (parse : Bytes → Option Json) (db : Db)
    (m : LookupMaps) : Prop where
  closers : ∀ arr, m.closers = some arr →
    arr = L.qsort (compareBy CloserRef.cited) (db.entries.rows.filterMap (closerRef parse db))
  intents : ∀ arr, m.intents = some arr →
    arr = L.qsort (compareBy id) (db.entries.rows.filterMap (intentApproval parse db))

theorem fresh_freed : LookupMaps.freed.Fresh L parse db :=
  ⟨fun _ h => (nomatch h), fun _ h => (nomatch h)⟩

/-- The library's sort puts references in the order the searches need. -/
theorem sorted_qsort {α : Type} (key : α → Bytes) (l : List α) (k : Bytes) :
    Sorted (fun x => strcmp (key x) k) (L.qsort (compareBy key) l) := by
  have htotal : ∀ a b : α, compareBy key a b ≠ .gt ∨ compareBy key b a ≠ .gt := by
    intro a b
    simpa only [compareBy, strcmp_ne_gt_iff] using le_total _ _
  have htrans : ∀ a b d : α, compareBy key a b ≠ .gt → compareBy key b d ≠ .gt →
      compareBy key a d ≠ .gt := by
    intro a b d hab hbd
    rw [compareBy, strcmp_ne_gt_iff] at hab hbd ⊢
    exact hab.trans hbd
  exact (L.qsort_pairwise _ l htotal htrans).imp fun h => rank_strcmp_mono h k

/-- **The search counts the references with the key**, and its first one has it. -/
theorem searchMap_qsort {α : Type} (key : α → Bytes) (l : List α) (k : Bytes) :
    (searchMap L key (L.qsort (compareBy key) l) k = none ∧ l.filter (fun x => key x == k) = []) ∨
      ∃ lo x, searchMap L key (L.qsort (compareBy key) l) k =
          some (lo, (l.filter (fun x => key x == k)).length) ∧
        (L.qsort (compareBy key) l)[lo]? = some x ∧ x ∈ l.filter (fun x => key x == k) := by
  have hsorted := sorted_qsort (L := L) key l k
  have hfinds := L.bsearch_finds _ _ hsorted
  have hcount : (L.qsort (compareBy key) l).countP (fun x => strcmp (key x) k == .eq) =
      (l.filter (fun x => key x == k)).length := by
    rw [(L.qsort_perm _ l).countP_eq, countP_eq_length_filter]
    congr 2
    funext x
    rw [Bool.eq_iff_iff, beq_iff_eq, beq_iff_eq, strcmp_eq_iff]
  have hblock := blockAround_eq hsorted hfinds
  rw [hcount] at hblock
  by_cases h0 : (l.filter (fun x => key x == k)).length = 0
  · rw [if_pos h0] at hblock
    exact .inl ⟨hblock, length_eq_zero_iff.mp h0⟩
  · rw [if_neg h0] at hblock
    obtain ⟨x, hx, hxe⟩ := blockAround_first hsorted hfinds hblock
    refine .inr ⟨_, x, hblock, hx, mem_filter.mpr ⟨?_, ?_⟩⟩
    · exact (L.qsort_perm _ l).mem_iff.mp (mem_of_getElem? hx)
    · simpa using strcmp_eq_iff.mp hxe

/-- How many references a scan over the joined rows counts for a lookup. -/
def Lookup.matches (parse : Bytes → Option Json) (db : Db) : Lookup → Nat
  | closers hash _ => (closersCiting parse db hash.bytes).length
  | intents aeh _ => (intentsCiting parse db aeh.bytes).length

/-- The one closer a scan finds for a lookup, if it finds exactly one. -/
def Lookup.single (parse : Bytes → Option Json) (db : Db) : Lookup → Option CloserRef
  | closers hash _ =>
    match closersCiting parse db hash.bytes with
    | [ref] => some ref
    | _ => none
  | intents _ _ => none

/-- A lookup answers as the scan does. -/
structure AnswersScan (parse : Bytes → Option Json) (db : Db) (l : Lookup) (f : Found) : Prop where
  count : f.count = int32OfNat (l.matches parse db)
  first : ∀ ref, l.single parse db = some ref → f.first = some ref

theorem intentsCiting_nil : intentsCiting parse db [] = [] := by
  refine filter_eq_nil_iff.mpr fun r _ h => ?_
  have happroval : intentApproval parse db r = some [] := by simpa using h
  unfold intentApproval at happroval
  split at happroval
  · obtain ⟨o, -, ho⟩ := Option.bind_eq_some_iff.mp happroval
    exact strNonempty_ne_nil ho rfl
  · cases happroval

/-- **One lookup**, on maps that are fresh: the maps stay fresh, the answer is the scan's, and
there is one unless the map could not be built. -/
theorem lookupStep_spec {m : LookupMaps} (hm : m.Fresh L parse db) (l : Lookup) :
    (lookupStep L parse db m l).1.Fresh L parse db ∧
    (l.fails = false → (lookupStep L parse db m l).2 ≠ none) ∧
    ∀ f, (lookupStep L parse db m l).2 = some f → AnswersScan parse db l f := by
  cases l with
  | closers hash fails =>
    have hbuild : buildCloserMap L parse db fails m = none ∧ fails = true ∨
        buildCloserMap L parse db fails m = some (L.qsort (compareBy CloserRef.cited)
          (db.entries.rows.filterMap (closerRef parse db))) := by
      unfold buildCloserMap
      cases hc : m.closers with
      | some arr => exact .inr (congrArg some (hm.closers arr hc))
      | none => cases fails <;> simp
    rcases hbuild with ⟨hb, hfails⟩ | hb
    · simp only [lookupStep, hb]
      exact ⟨hm, fun h => absurd (hfails.symm.trans h) (by decide), fun f h => (nomatch h)⟩
    simp only [lookupStep, hb]
    refine ⟨⟨fun arr h => (Option.some.inj h).symm, hm.intents⟩, ?_, ?_⟩
    · intro _
      split <;> simp
    intro f hf
    have hcite : closersCiting parse db hash.bytes =
        (db.entries.rows.filterMap (closerRef parse db)).filter (fun x => x.cited == hash.bytes) :=
      rfl
    rcases searchMap_qsort (L := L) CloserRef.cited
        (db.entries.rows.filterMap (closerRef parse db)) hash.bytes with
      ⟨hs, hnil⟩ | ⟨lo, x, hs, hx, hmem⟩
    · rw [hs] at hf
      cases hf
      rw [hnil] at hcite
      constructor
      · simp only [Lookup.matches, hcite]
        rfl
      · intro ref href
        simp [Lookup.single, hcite] at href
    · rw [hs] at hf
      cases hf
      rw [← hcite] at hmem
      refine ⟨by rw [Lookup.matches, hcite], fun ref href => ?_⟩
      rw [Lookup.single] at href
      split at href
      · rename_i r hone
        rw [hone, mem_singleton] at hmem
        rw [hx, hmem, Option.some.inj href]
      · cases href
  | intents aeh fails =>
    simp only [lookupStep]
    by_cases hnil : aeh.bytes = []
    · rw [if_pos hnil]
      refine ⟨hm, fun _ h => (nomatch h), fun f hf => ?_⟩
      cases hf
      exact ⟨by rw [Lookup.matches, hnil, intentsCiting_nil]; rfl, fun ref h => (nomatch h)⟩
    rw [if_neg hnil]
    have hbuild : buildIntentMap L parse db fails m = none ∧ fails = true ∨
        buildIntentMap L parse db fails m = some (L.qsort (compareBy id)
          (db.entries.rows.filterMap (intentApproval parse db))) := by
      unfold buildIntentMap
      cases hc : m.intents with
      | some arr => exact .inr (congrArg some (hm.intents arr hc))
      | none => cases fails <;> simp
    rcases hbuild with ⟨hb, hfails⟩ | hb
    · simp only [hb]
      exact ⟨hm, fun h => absurd (hfails.symm.trans h) (by decide), fun f h => (nomatch h)⟩
    simp only [hb]
    refine ⟨⟨hm.closers, fun arr h => (Option.some.inj h).symm⟩, ?_, ?_⟩
    · intro _
      split <;> simp
    intro f hf
    have hcite := length_filter_intentApproval parse db aeh.bytes
    rcases searchMap_qsort (L := L) id
        (db.entries.rows.filterMap (intentApproval parse db)) aeh.bytes with
      ⟨hs, hempty⟩ | ⟨lo, x, hs, -, -⟩
    · rw [hs] at hf
      cases hf
      rw [hempty] at hcite
      exact ⟨by rw [Lookup.matches, ← hcite]; rfl, fun ref h => (nomatch h)⟩
    · rw [hs, hcite] at hf
      cases hf
      exact ⟨rfl, fun ref h => (nomatch h)⟩

end Lookups

/-! ## Runs -/

/-- What happens on a handle: a walk with its lookups, after which the maps are freed; the
apply-time count of intents, with maps of its own; a write by whatever else uses the database. -/
inductive MapEvent where
  | walk (lookups : List Lookup)
  | countIntents (aeh : Field 65) (fails : Bool)
  | write (db : Db)

section Runs

variable (L : SearchLib) (parse : Bytes → Option Json)

/-- One event: the database it ran on, and the lookups with their answers. -/
def mapStep (s : Db × LookupMaps) :
    MapEvent → (Db × LookupMaps) × Db × List (Lookup × Option Found)
  | .walk ls => ((s.1, .freed), s.1, Machine.trace (lookupStep L parse s.1) s.2 ls)
  | .countIntents aeh fails =>
    ((s.1, .freed), s.1, [(.intents aeh fails,
      (lookupStep L parse s.1 .freed (.intents aeh fails)).2)])
  | .write db => ((db, s.2), db, [])

variable {L parse}

/-- The lookups of one walk. -/
theorem trace_lookupStep {db : Db} {m : LookupMaps} (hm : m.Fresh L parse db) (ls : List Lookup) :
    ∀ q ∈ Machine.trace (lookupStep L parse db) m ls,
      (q.1.fails = false → q.2 ≠ none) ∧ ∀ f, q.2 = some f → AnswersScan parse db q.1 f := by
  induction ls generalizing m with
  | nil => simp
  | cons l ls ih =>
    obtain ⟨hfresh, hsome, hscan⟩ := lookupStep_spec hm l
    rw [Machine.trace_cons]
    refine forall_mem_cons.mpr ⟨⟨hsome, hscan⟩, ih hfresh⟩

/-- The maps are freed between the events. -/
theorem trace_mapStep {db : Db} (events : List MapEvent) :
    ∀ p ∈ Machine.trace (mapStep L parse) (db, .freed) events, ∀ q ∈ p.2.2,
      (q.1.fails = false → q.2 ≠ none) ∧ ∀ f, q.2 = some f → AnswersScan parse p.2.1 q.1 f := by
  induction events generalizing db with
  | nil => simp
  | cons e events ih =>
    rw [Machine.trace_cons]
    cases e with
    | walk ls => exact forall_mem_cons.mpr ⟨trace_lookupStep fresh_freed ls, ih⟩
    | countIntents aeh fails =>
      refine forall_mem_cons.mpr ⟨?_, ih⟩
      intro q hq
      obtain rfl := mem_singleton.mp hq
      have hfreed : LookupMaps.freed.Fresh L parse db := fresh_freed
      obtain ⟨-, hsome, hscan⟩ := lookupStep_spec hfreed (.intents aeh fails)
      exact ⟨hsome, hscan⟩
    | write db' => exact forall_mem_cons.mpr ⟨fun q hq => (nomatch hq), ih⟩

/-- **The lookups agree with a scan.**  In every run on a handle, whichever sort and search the C
library has, every lookup of a walk whose map can be built is answered; the count is the number of
matching rows, if that is below 2^31, and the reference whose body is fetched is the one match if
there is exactly one. -/
theorem lookups_agree_with_scan (L : SearchLib) (parse : Bytes → Option Json) (db : Db)
    (events : List MapEvent) :
    ∀ p ∈ Machine.trace (mapStep L parse) (db, .freed) events, ∀ q ∈ p.2.2,
      (q.1.fails = false → q.2 ≠ none) ∧
      ∀ f, q.2 = some f →
        (q.1.matches parse p.2.1 < 2 ^ 31 → f.count = q.1.matches parse p.2.1) ∧
        ∀ ref, q.1.single parse p.2.1 = some ref → f.first = some ref := by
  intro p hp q hq
  obtain ⟨hsome, hscan⟩ := trace_mapStep events p hp q hq
  refine ⟨hsome, fun f hf => ⟨fun hlt => ?_, (hscan f hf).first⟩⟩
  rw [(hscan f hf).count]
  exact int32OfNat_eq_iff.mpr hlt

end Runs

/-- With insertion sort and the halving search, the lookups are those the grading is modelled
with. -/
theorem lookupStep_insertion (parse : Bytes → Option Json) (db : Db) (hash : Field 65) :
    ∃ f, (lookupStep SearchLib.insertion parse db .freed (.closers hash false)).2 = some f ∧
      f.count = int32OfNat (closersOf parse db hash.bytes).1 ∧
      f.first = (closersOf parse db hash.bytes).2 := by
  have hsearch : searchMap SearchLib.insertion CloserRef.cited (closerMap parse db) hash.bytes =
      matchBlock (fun x : CloserRef => strcmp x.cited hash.bytes) (closerMap parse db) := rfl
  change ∃ f, (match searchMap SearchLib.insertion CloserRef.cited (closerMap parse db) hash.bytes
    with | none => some (⟨0, none⟩ : Found)
         | some (lo, n) => some ⟨int32OfNat n, (closerMap parse db)[lo]?⟩) = some f ∧ _
  rw [hsearch, closersOf]
  cases matchBlock (fun x : CloserRef => strcmp x.cited hash.bytes) (closerMap parse db) with
  | none => exact ⟨_, rfl, rfl, rfl⟩
  | some block => exact ⟨_, rfl, rfl, rfl⟩

namespace Sample

/-- A walk that looks up the closers of the intent twice. -/
def gateLookups : List Lookup :=
  [.closers (.copy 65 intentHash) false, .closers (.copy 65 intentHash) true]

end Sample

open Sample

/-- The closer of the gated execution is found once, by the first lookup and in the cached map. -/
theorem lookups_agree_with_scan_gate :
    (mapStep SearchLib.insertion parseGate
      ((run gateCrypto gateOps).store.committed, .freed)
      (.walk gateLookups)).2.2.map (fun q => q.2.isSome) = [true, true] ∧
    ∀ q ∈ (mapStep SearchLib.insertion parseGate
        ((run gateCrypto gateOps).store.committed, .freed)
        (.walk gateLookups)).2.2, ∀ f, q.2 = some f → f.count = 1 := by
  refine ⟨by decide +kernel, ?_⟩
  have hone : (closersCiting parseGate (run gateCrypto gateOps).store.committed
      (Field.copy 65 intentHash).bytes).length = 1 := by decide +kernel
  intro q hq f hf
  have hq1 : q.1.matches parseGate
      (run gateCrypto gateOps).store.committed = 1 := by
    simp only [mapStep, gateLookups, Machine.trace_cons, Machine.trace_nil, mem_cons,
      not_mem_nil, or_false] at hq
    rcases hq with rfl | rfl
    · exact hone
    · exact hone
  have hcount := ((lookups_agree_with_scan SearchLib.insertion parseGate _
    [.walk gateLookups] _ mem_cons_self q hq).2 f hf).1
  simp only [mapStep] at hcount
  rw [hq1] at hcount
  exact hcount (by decide)

namespace Sample

/-- The closer with number `i`. -/
def closerRow (i : Nat) : EntryRow :=
  { forgedRow with rowid := i, sequence := i, chainEntryHash := Decimal.unsigned i }

/-- A database of `n` closers with one body. -/
def manyClosers (n : Nat) : Db where
  entries := ⟨(List.range n).map closerRow, by
    refine List.pairwise_map.mpr (List.pairwise_lt_range.imp fun hij => ?_)
    have hseq : ((closerRow _).sequence == (closerRow _).sequence) = false :=
      beq_eq_false_iff_ne.mpr fun h => hij.ne (Int.ofNat.inj h)
    have hhash : ((closerRow _).chainEntryHash == (closerRow _).chainEntryHash) = false :=
      beq_eq_false_iff_ne.mpr fun h => hij.ne (Decimal.unsigned_injective h)
    rw [EntryRow.clash, hseq, hhash, Bool.and_false, Bool.false_or]⟩
  heads := .empty
  artifacts := Table.empty.insertOrIgnore
    ⟨text "x1", text "gate_execution", closerContent, closer.artifactHash, text "s2", 1000⟩
  milestones := .empty
  intents := .empty
  nextRowid := n + 1

theorem length_closersCiting_manyClosers (n : Nat) :
    (closersCiting parseGate (manyClosers n) intentHash).length = n := by
  have href : ∀ i, closerRef parseGate (manyClosers n) (closerRow i) =
      some ⟨intentHash, text "gate_execution", i⟩ := by
    intro i
    have hbody : (manyClosers n).bodyOf (closerRow i) = some closerContent := by
      change (manyClosers 0).bodyOf forgedRow = some closerContent
      decide +kernel
    have hcstr : cstr closerContent = closerContent := by decide +kernel
    have hcited : (parseGate closerContent).bind (·.strNonempty (text "intent_entry_hash") 65) =
        some intentHash := by decide +kernel
    have htype : typeIsCloser (closerRow i).artifactType = true := by
      change typeIsCloser (text "gate_execution") = true
      decide
    rw [closerRef, if_pos htype, parsedBody, hbody, Option.bind_some, hcstr, hcited]
    rfl
  have hall : (manyClosers n).entries.rows.filterMap (closerRef parseGate (manyClosers n)) =
      (List.range n).map fun i => (⟨intentHash, text "gate_execution", i⟩ : CloserRef) := by
    change ((List.range n).map closerRow).filterMap _ = _
    rw [filterMap_map]
    refine (filterMap_congr fun i _ => href i).trans ?_
    rw [← filterMap_eq_map]
    rfl
  rw [closersCiting, hall, filter_eq_self.mpr, length_map, length_range]
  intro ref href
  obtain ⟨i, -, rfl⟩ := mem_map.mp href
  simp

end Sample

/-- **The count of closers is an `int`.**  With 2^31 closers that cite one intent, the lookup
reports a negative number of them. -/
theorem closer_count_wraps :
    (closersCiting parseGate (manyClosers (2 ^ 31))
      (Field.copy 65 intentHash).bytes).length = 2 ^ 31 ∧
    ∃ f, (lookupStep SearchLib.insertion parseGate (manyClosers (2 ^ 31)) .freed
      (.closers (.copy 65 intentHash) false)).2 = some f ∧ f.count = -(2 ^ 31) := by
  have hbytes : (Field.copy 65 intentHash).bytes = intentHash := by decide +kernel
  have hlen := length_closersCiting_manyClosers (2 ^ 31)
  rw [← hbytes] at hlen
  refine ⟨hlen, ?_⟩
  have hfreed : LookupMaps.freed.Fresh SearchLib.insertion parseGate
      (manyClosers (2 ^ 31)) := fresh_freed
  obtain ⟨-, hsome, hscan⟩ := lookupStep_spec hfreed (.closers (.copy 65 intentHash) false)
  obtain ⟨f, hf⟩ := Option.ne_none_iff_exists'.mp (hsome rfl)
  refine ⟨f, hf, ?_⟩
  rw [(hscan f hf).count, Lookup.matches, hlen]
  decide

end Virp
