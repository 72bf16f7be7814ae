import Mathlib.Data.List.ReduceOption
import Mathlib.Data.List.Sort

/-! # The listener's ledger

The accounting listener writes down when it starts and when it stops.  The reconciler rebuilds the
windows in which it listened, and says of an interval whether the listener was up in it.
-/
namespace Virp

open List

/-- The event of a line. -/
inductive LedgerEvent where
  | listenStart | listenStop | other
deriving DecidableEq

/-- A line of the ledger; a line without `utc_ns` has no time. -/
structure LedgerRecord where
  event : LedgerEvent
  utcNs : Option Int

/-- A window in which the listener was up, with no end if none is known. -/
structure ListenWindow where
  start : Int
  stop : Option Int
deriving DecidableEq

/-- The loop of `read_ledger`, with its `open_start`. -/
def ledgerWindows : Option Int → List LedgerRecord → List ListenWindow
  | openStart, [] => (openStart.map (⟨·, none⟩)).toList
  | openStart, r :: rest =>
    match r.event with
    -- a start closes a window that was never closed; without a time it opens none
    | .listenStart => (openStart.map (⟨·, r.utcNs⟩)).toList ++ ledgerWindows r.utcNs rest
    | .listenStop => (openStart.map (⟨·, r.utcNs⟩)).toList ++ ledgerWindows none rest
    | .other => ledgerWindows openStart rest

/-- `read_ledger`: a line that is blank or no JSON is skipped. -/
def readLedger (lines : List (Option LedgerRecord)) : List ListenWindow :=
  ledgerWindows none lines.reduceOption

/-- The time of the first start or stop. -/
def nextChange (records : List LedgerRecord) : Option Int :=
  (records.find? (·.event ≠ .other)).bind (·.utcNs)

theorem mem_ledgerWindows {openStart : Option Int} {records : List LedgerRecord}
    {w : ListenWindow} : w ∈ ledgerWindows openStart records ↔
      (openStart = some w.start ∧ w.stop = nextChange records) ∨
      ∃ before after, records = before ++ ⟨.listenStart, some w.start⟩ :: after ∧
        w.stop = nextChange after := by
  induction records generalizing openStart with
  | nil =>
    obtain ⟨start, stop⟩ := w
    cases openStart with
    | none => simp [ledgerWindows]
    | some t => simp [ledgerWindows, nextChange, eq_comm (a := t)]
  | cons r records ih =>
    obtain ⟨event, utcNs⟩ := r
    obtain ⟨start, stop⟩ := w
    -- the start of a window is the open one, this record's, or one that comes later
    have hlater : (∃ before after, (⟨event, utcNs⟩ : LedgerRecord) :: records =
          before ++ ⟨.listenStart, some start⟩ :: after ∧ stop = nextChange after) ↔
        (event = .listenStart ∧ utcNs = some start ∧ stop = nextChange records) ∨
        ∃ before after, records = before ++ ⟨.listenStart, some start⟩ :: after ∧
          stop = nextChange after := by
      constructor
      · rintro ⟨before, after, hrec, hstop⟩
        cases before with
        | nil =>
          cases hrec
          exact .inl ⟨rfl, rfl, hstop⟩
        | cons b before =>
          cases hrec
          exact .inr ⟨before, after, rfl, hstop⟩
      · rintro (⟨rfl, rfl, hstop⟩ | ⟨before, after, rfl, hstop⟩)
        · exact ⟨[], records, rfl, hstop⟩
        · exact ⟨_ :: before, after, rfl, hstop⟩
    rw [hlater]
    cases event <;> cases openStart <;>
      simp [ledgerWindows, nextChange, ih, eq_comm]

/-- **The windows of a ledger**: each begins at a start with a time and ends at the next start or
stop, or has no end if that has no time or there is none. -/
theorem mem_readLedger {lines : List (Option LedgerRecord)} {w : ListenWindow} :
    w ∈ readLedger lines ↔ ∃ before after,
      lines.reduceOption = before ++ ⟨.listenStart, some w.start⟩ :: after ∧
        w.stop = nextChange after := by
  rw [readLedger, mem_ledgerWindows]
  simp

/-- A ledger has a window if a start in it has a time. -/
theorem readLedger_ne_nil_iff {lines : List (Option LedgerRecord)} :
    readLedger lines ≠ [] ↔ ∃ start, some ⟨.listenStart, some start⟩ ∈ lines := by
  simp only [ne_eq, eq_nil_iff_forall_not_mem, not_forall, not_not, mem_readLedger]
  constructor
  · rintro ⟨w, before, after, hl, -⟩
    exact ⟨w.start, reduceOption_mem_iff.mp (by simp [hl])⟩
  · rintro ⟨start, hmem⟩
    obtain ⟨before, after, hl⟩ := append_of_mem (reduceOption_mem_iff.mpr hmem)
    exact ⟨⟨start, nextChange after⟩, before, after, hl, rfl⟩

def covers (windows : List ListenWindow) (t : Int) : Bool :=
  windows.any fun w => decide (w.start ≤ t) && w.stop.all (decide <| t ≤ ·)

inductive Coverage where
  | receiverUp | interrupted | receiverDown | receiverUnknown
deriving DecidableEq

/-- The boundaries of a window in an interval. -/
def boundariesIn (t0 t1 : Int) (w : ListenWindow) : List (LedgerEvent × Int) :=
  (if t0 < w.start ∧ w.start ≤ t1 then [(.listenStart, w.start)] else []) ++
    (w.stop.toList.filter fun stop => t0 ≤ stop ∧ stop < t1).map (.listenStop, ·)

/-- `coverage_for_span`, with its evidence.  The ends of the interval come in any order. -/
def coverageForSpan (windows : List ListenWindow) (t0 t1 : Int) :
    Coverage × List (LedgerEvent × Int) :=
  let lo := min t0 t1
  let hi := max t0 t1
  let boundaries := (windows.flatMap (boundariesIn lo hi)).insertionSort (·.2 ≤ ·.2)
  if windows = [] then (.receiverUnknown, [])
  else if covers windows lo ∧ covers windows hi ∧ boundaries = [] then (.receiverUp, [])
  else if boundaries ≠ [] then (.interrupted, boundaries)
  else if covers windows lo = false ∧ covers windows hi = false then (.receiverDown, [])
  else (.receiverUnknown, [])

/-! ## What the coverage says -/

/-- The listener started or stopped inside the interval. -/
def ListenChanged (windows : List ListenWindow) (lo hi : Int) : Prop :=
  ∃ w ∈ windows, (lo < w.start ∧ w.start ≤ hi) ∨ ∃ stop ∈ w.stop, lo ≤ stop ∧ stop < hi

/-- What a coverage of an interval should say; one that is none of the three is unknown. -/
structure CoverageExact (windows : List ListenWindow) (lo hi : Int) (c : Coverage) : Prop where
  up : c = .receiverUp ↔ (∀ t, lo ≤ t → t ≤ hi → covers windows t = true) ∧
    ¬ ListenChanged windows lo hi
  down : c = .receiverDown ↔ ∀ t, lo ≤ t → t ≤ hi → covers windows t = false
  interrupted : c = .interrupted → covers windows lo = true ∧ ListenChanged windows lo hi
  noWindow : windows = [] → c ≠ .receiverUp

variable {windows : List ListenWindow} {lo hi t : Int}

theorem covers_iff :
    covers windows t = true ↔ ∃ w ∈ windows, w.start ≤ t ∧ ∀ stop ∈ w.stop, t ≤ stop := by
  simp [covers, Option.all_eq_true]

theorem boundaries_eq_nil_iff :
    (windows.flatMap (boundariesIn lo hi)).insertionSort (·.2 ≤ ·.2) = [] ↔
      ¬ ListenChanged windows lo hi := by
  rw [← length_eq_zero_iff, length_insertionSort, length_eq_zero_iff, flatMap_eq_nil_iff]
  simp only [boundariesIn, ListenChanged, append_eq_nil_iff, map_eq_nil_iff,
    filter_eq_nil_iff, not_exists, not_and, not_or]
  refine forall₂_congr fun w _ => and_congr ?_ ?_
  · split_ifs with h <;> simp_all
  · simp

/-- Where nothing changed, a window that covers one instant covers all of them. -/
theorem covers_eq (hn : ¬ ListenChanged windows lo hi) {u : Int} (ht : lo ≤ t ∧ t ≤ hi)
    (hu : lo ≤ u ∧ u ≤ hi) : covers windows t = covers windows u := by
  have himp : ∀ t u, lo ≤ t ∧ t ≤ hi → lo ≤ u ∧ u ≤ hi → covers windows t = true →
      covers windows u = true := by
    intro t u ht hu h
    obtain ⟨w, hw, hstart, hstop⟩ := covers_iff.mp h
    refine covers_iff.mpr ⟨w, hw, ?_, fun stop hs => ?_⟩
    · by_contra hlt
      exact hn ⟨w, hw, .inl ⟨by omega, by omega⟩⟩
    · have hle := hstop stop hs
      by_contra hlt
      exact hn ⟨w, hw, .inr ⟨stop, hs, by omega, by omega⟩⟩
  exact Bool.eq_iff_iff.mpr ⟨himp t u ht hu, himp u t hu ht⟩

theorem covers_all_iff (hn : ¬ ListenChanged windows lo hi) (hle : lo ≤ hi) (b : Bool) :
    (∀ t, lo ≤ t → t ≤ hi → covers windows t = b) ↔ covers windows lo = b := by
  constructor
  · exact fun h => h lo (le_refl lo) hle
  · exact fun h t h0 h1 => (covers_eq hn ⟨h0, h1⟩ ⟨le_refl lo, hle⟩).trans h

theorem coverageForSpan_changed {t0 t1 : Int}
    (h : ListenChanged windows (min t0 t1) (max t0 t1)) :
    (coverageForSpan windows t0 t1).1 = .interrupted := by
  have hb := mt boundaries_eq_nil_iff.mp (not_not.mpr h)
  have hw : windows ≠ [] := by
    rintro rfl
    exact hb rfl
  simp [coverageForSpan, hw, hb]

/-- Where nothing changed, the beginning decides, and the coverage is known. -/
theorem coverageForSpan_unchanged {t0 t1 : Int} (hw : windows ≠ [])
    (h : ¬ ListenChanged windows (min t0 t1) (max t0 t1)) : (coverageForSpan windows t0 t1).1 =
      if covers windows (min t0 t1) then .receiverUp else .receiverDown := by
  have hb := boundaries_eq_nil_iff.mpr h
  have hends : covers windows (max t0 t1) = covers windows (min t0 t1) :=
    covers_eq h (by omega) (by omega)
  cases hc : covers windows (min t0 t1) <;> simp [coverageForSpan, hw, hb, hends, hc]

/-- **The coverage of an interval** is what it should be exactly when the ledger has a window and,
if the listener started or stopped inside the interval, it was up at its beginning. -/
theorem coverage_exact_iff (lines : List (Option LedgerRecord)) (t0 t1 : Int) :
    CoverageExact (readLedger lines) (min t0 t1) (max t0 t1)
        (coverageForSpan (readLedger lines) t0 t1).1 ↔
      (∃ start, some ⟨.listenStart, some start⟩ ∈ lines) ∧
      (ListenChanged (readLedger lines) (min t0 t1) (max t0 t1) →
        covers (readLedger lines) (min t0 t1) = true) := by
  rw [← readLedger_ne_nil_iff]
  generalize readLedger lines = windows
  have hle : min t0 t1 ≤ max t0 t1 := by omega
  constructor
  · intro h
    refine ⟨?_, fun hc => (h.interrupted (coverageForSpan_changed hc)).1⟩
    -- without a window nothing is covered, but the answer is not that the listener was down
    rintro rfl
    exact absurd (h.down.mpr fun _ _ _ => rfl) (by simp [coverageForSpan])
  · rintro ⟨hw, hbegin⟩
    by_cases hc : ListenChanged windows (min t0 t1) (max t0 t1)
    · rw [coverageForSpan_changed hc]
      refine ⟨by simp [hc], ?_, fun _ => ⟨hbegin hc, hc⟩, by simp⟩
      have hup : ∃ t, min t0 t1 ≤ t ∧ t ≤ max t0 t1 ∧ covers windows t = true :=
        ⟨_, le_refl _, hle, hbegin hc⟩
      simpa using hup
    · rw [coverageForSpan_unchanged hw hc]
      refine ⟨?_, ?_, ?_, fun hn => absurd hn hw⟩
      · rw [covers_all_iff hc hle]
        simp [hc]
      · rw [covers_all_iff hc hle]
        simp
      · split_ifs <;> simp

/-- A listener that starts inside the interval interrupts nothing: it was not up before. -/
theorem coverage_started_late :
    ¬ CoverageExact (readLedger [some ⟨.listenStart, some 10⟩]) 5 15
      (coverageForSpan (readLedger [some ⟨.listenStart, some 10⟩]) 5 15).1 :=
  fun h => absurd (h.interrupted (by decide)).1 (by decide)

end Virp
