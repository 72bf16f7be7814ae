import Virp.CameraRuns

/-! # The checkpoint file

`checkpoint_append` writes a record as a line at the end of the file, and a crash may leave any
beginning of that line.  Nothing repairs it: the next record is written behind it, on the same line,
and `checkpoint_load` passes over a line that is no record.
-/
namespace Virp

open List

/-- What is appended for a segment: the record, and two fields for audit. -/
structure CheckpointLine where
  record : CheckpointRecord
  bodySha256 : PyStr
  shippedAs : PyStr

/-- The line as the program builds it. -/
def CheckpointLine.value (l : CheckpointLine) : PyValue :=
  .dict [("segment_seq".toList, .int l.record.segmentSeq),
    ("segment_sha256".toList, .str l.record.segmentSha256),
    ("capture_end_utc_ns".toList, .int l.record.captureEndNs),
    ("body_sha256".toList, .str l.bodySha256), ("shipped_as".toList, .str l.shippedAs)]

/-- A write to the file: an append that returned, or a crash after some characters of one. -/
structure CheckpointWrite where
  line : CheckpointLine
  torn : Option Nat

/-- What `checkpoint_load` makes of a line; it ends with the exception that a line raises. -/
inductive LineRead where
  | skipped
  | record (r : CheckpointRecord)
  | raised
deriving DecidableEq

def LineRead.toRecord : LineRead → Option CheckpointRecord
  | .record r => some r
  | _ => none

/-- `t in s`, for a `str` `s`. -/
def PyStr.holds (s t : PyStr) : Bool := s.tails.any t.isPrefixOf

section
variable (U : PyText) (J : PyJson)

def CheckpointWrite.text (w : CheckpointWrite) : PyStr :=
  (J.dumps w.line.value ++ ['\n']).take (w.torn.getD ((J.dumps w.line.value).length + 1))

/-- `checkpoint_append`. -/
def checkpointAppend (file : PyStr) (w : CheckpointWrite) : PyStr := file ++ w.text J

/-- A parsed line: passed over without the two fields of its key, which `shipped_key` then takes
the integer of.  A record whose digest or number is of a type the program never writes is taken to
raise. -/
def readCheckpointValue (v : PyValue) : LineRead :=
  match v with
  | .dict _ =>
    match v.get "segment_sha256".toList, v.get "capture_end_utc_ns".toList with
    | some sha, some endNs =>
      match sha.asStr, J.toInt endNs, (v.get "segment_seq".toList).bind PyValue.asInt with
      | some sha, some endNs, some seq =>
        if 0 ≤ seq then .record ⟨seq.toNat, sha, endNs⟩ else .raised
      | _, _, _ => .raised
    | _, _ => .skipped
  -- `in` looks for an item of a list and for a part of a text; neither has members
  | .list items =>
    if items.any (·.isStr "segment_sha256".toList) && items.any (·.isStr "capture_end_utc_ns".toList)
    then .raised else .skipped
  | .str s =>
    if PyStr.holds s "segment_sha256".toList && PyStr.holds s "capture_end_utc_ns".toList
    then .raised else .skipped
  | _ => .raised

/-- The body of the loop of `checkpoint_load`. -/
def readCheckpointLine (line : PyStr) : LineRead :=
  if U.strip line = [] then .skipped
  else
    match J.loads (U.strip line) with
    | none => .skipped
    | some v => readCheckpointValue J v

/-- The lines that are not passed over, in order. -/
def checkpointReads (file : PyStr) : List LineRead :=
  ((file.splitOnP isNewline).map (readCheckpointLine U J)).filter (· ≠ .skipped)

/-- `checkpoint_load`, from the text of the file; `none` if it raises. -/
def loadCheckpoint (file : PyStr) : Option (List CheckpointRecord) :=
  if .raised ∈ checkpointReads U J file then none
  else some (checkpointLoad ((checkpointReads U J file).filterMap LineRead.toRecord))

/-- Relied on for a line: floats are written on one line, `json.loads` reads the line back, and
refuses every beginning of it. -/
structure PyJson.ReadsBack (l : CheckpointLine) : Prop where
  float : ∀ x, OneLine (J.float x)
  whole : U.strip (J.dumps l.value) ≠ [] ∧
    J.loads (U.strip (J.dumps l.value)) = some l.value.sortKeys
  torn : ∀ n < (J.dumps l.value).length, U.strip ((J.dumps l.value).take n) = [] ∨
    J.loads (U.strip ((J.dumps l.value).take n)) = none

/-- Every write begins a line. -/
def BeginLines : PyStr → List CheckpointWrite → Prop
  | _, [] => True
  | file, w :: ws =>
    (file = [] ∨ ∃ lines, file = lines ++ ['\n']) ∧ BeginLines (checkpointAppend J file w) ws

end

variable {U : PyText} {J : PyJson} {l : CheckpointLine} {r : CheckpointRecord} {file : PyStr}
  {ws : List CheckpointWrite}

theorem CheckpointLine.get_sortKeys (l : CheckpointLine) (key : PyStr) :
    l.value.sortKeys.get key = (l.value.get key).map PyValue.sortKeys := by
  refine PyValue.get_sortKeys ?_ key
  change ["segment_seq".toList, "segment_sha256".toList, "capture_end_utc_ns".toList,
    "body_sha256".toList, "shipped_as".toList].Nodup
  decide +kernel

/-- A line's own value is its record, with its keys sorted. -/
theorem readCheckpointValue_sortKeys (l : CheckpointLine) :
    readCheckpointValue J l.value.sortKeys = .record l.record := by
  have hsha : l.value.sortKeys.get "segment_sha256".toList =
      some (.str l.record.segmentSha256) := l.get_sortKeys _
  have hend : l.value.sortKeys.get "capture_end_utc_ns".toList =
      some (.int l.record.captureEndNs) := l.get_sortKeys _
  have hseq : l.value.sortKeys.get "segment_seq".toList =
      some (.int l.record.segmentSeq) := l.get_sortKeys _
  have hdict : ∃ items, l.value.sortKeys = .dict items := ⟨_, rfl⟩
  obtain ⟨items, hi⟩ := hdict
  rw [hi] at hsha hend hseq ⊢
  simp only [readCheckpointValue, hsha, hend, hseq, PyValue.asStr, PyJson.toInt, Option.bind_some,
    PyValue.asInt]
  rw [if_pos (Int.natCast_nonneg _), Int.toNat_natCast]

theorem readCheckpointLine_whole (h : J.ReadsBack U l) :
    readCheckpointLine U J (J.dumps l.value) = .record l.record := by
  simp only [readCheckpointLine, if_neg h.whole.1, h.whole.2, readCheckpointValue_sortKeys]

theorem readCheckpointLine_torn (h : J.ReadsBack U l) {n : Nat} (hn : n < (J.dumps l.value).length) :
    readCheckpointLine U J ((J.dumps l.value).take n) = .skipped := by
  unfold readCheckpointLine
  split_ifs with hs
  · rfl
  · rw [(h.torn n hn).resolve_left hs]

theorem checkpointReads_nil : checkpointReads U J [] = [] := by
  simp [checkpointReads, readCheckpointLine, PyText.strip]

theorem checkpointReads_newline (a b : PyStr) :
    checkpointReads U J (a ++ '\n' :: b) = checkpointReads U J a ++ checkpointReads U J b := by
  rw [checkpointReads, splitOnP_append_cons a b rfl, map_append, filter_append]
  rfl

/-- What is written at the beginning of a line is read by itself. -/
theorem checkpointReads_append (h : file = [] ∨ ∃ lines, file = lines ++ ['\n']) (s : PyStr) :
    checkpointReads U J (file ++ s) = checkpointReads U J file ++ checkpointReads U J s := by
  rcases h with rfl | ⟨lines, rfl⟩
  · simp [checkpointReads_nil]
  · rw [append_assoc, singleton_append, checkpointReads_newline, checkpointReads_newline,
      checkpointReads_nil, append_nil]

theorem checkpointReads_run (h : BeginLines J file ws) :
    checkpointReads U J (ws.foldl (checkpointAppend J) file) =
      checkpointReads U J file ++ ws.flatMap fun w => checkpointReads U J (w.text J) := by
  induction ws generalizing file with
  | nil => simp
  | cons w ws ih =>
    rw [foldl_cons, ih h.2, checkpointAppend, checkpointReads_append h.1, append_assoc,
      flatMap_cons]

theorem checkpointReads_single {s : PyStr} (h : OneLine s) :
    checkpointReads U J s = [readCheckpointLine U J s].filter (· ≠ .skipped) := by
  rw [checkpointReads, splitOnP_eq_singleton h, map_singleton]

/-- A write is read as its record, or as nothing if it was torn. -/
theorem checkpointReads_text {w : CheckpointWrite} (h : J.ReadsBack U w.line) :
    (w.torn = none → .record w.line.record ∈ checkpointReads U J (w.text J)) ∧
    ∀ x ∈ checkpointReads U J (w.text J), x = .record w.line.record := by
  have hone := PyJson.oneLine_dumps h.float w.line.value
  rw [CheckpointWrite.text]
  generalize hn : w.torn.getD _ = n
  rcases Nat.lt_or_ge (J.dumps w.line.value).length n with hlt | hge
  · rw [take_of_length_le (by rw [length_append]; exact hlt), checkpointReads_newline,
      checkpointReads_single hone, readCheckpointLine_whole h, checkpointReads_nil]
    simp
  refine ⟨fun hw => absurd hn (by rw [hw, Option.getD_none]; omega), ?_⟩
  rw [take_append_of_le_length hge, checkpointReads_single fun c hc => hone c (mem_of_mem_take hc)]
  rcases hge.lt_or_eq with hlt | rfl
  · simp [readCheckpointLine_torn h hlt]
  · simp [readCheckpointLine_whole h]

/-- A record is loaded if no other record of the file has its key. -/
theorem mem_checkpointLoad {lines : List CheckpointRecord} (hr : r ∈ lines)
    (h : ∀ x ∈ lines, x.key = r.key → x = r) : r ∈ checkpointLoad lines := by
  induction lines using reverseRecOn with
  | nil => exact hr
  | append_singleton lines last ih =>
    rw [checkpointLoad, foldl_append]
    refine mem_putRecord.mpr ?_
    by_cases hlast : last = r
    · exact .inl hlast.symm
    · refine .inr ⟨ih ?_ fun x hx => h x (by simp [hx]), fun hk => hlast (h last (by simp) hk.symm)⟩
      simpa [Ne.symm hlast] using hr

/-- **What is appended is loaded**, if every write begins a line and no other record has its key,
and the resume point is as far. -/
theorem checkpoint_appended_kept (ws : List CheckpointWrite)
    (hJ : ∀ w ∈ ws, J.ReadsBack U w.line) (hlines : BeginLines J [] ws)
    (hl : ⟨l, none⟩ ∈ ws) (hkey : ∀ w ∈ ws, w.line.record.key = l.record.key →
      w.line.record = l.record) (state : Option LiveState) :
    ∃ shipped, loadCheckpoint U J (ws.foldl (checkpointAppend J) []) = some shipped ∧
      l.record ∈ shipped ∧
      ∃ st ∈ resumeState state shipped, l.record.segmentSeq ≤ st.segmentSeq := by
  have hreads : ∀ x ∈ checkpointReads U J (ws.foldl (checkpointAppend J) []),
      ∃ w ∈ ws, x = .record w.line.record := by
    intro x hx
    rw [checkpointReads_run hlines, checkpointReads_nil, nil_append] at hx
    obtain ⟨w, hw, hx⟩ := mem_flatMap.mp hx
    exact ⟨w, hw, (checkpointReads_text (hJ w hw)).2 x hx⟩
  have hmem : .record l.record ∈ checkpointReads U J (ws.foldl (checkpointAppend J) []) := by
    rw [checkpointReads_run hlines, checkpointReads_nil, nil_append]
    exact mem_flatMap.mpr ⟨_, hl, (checkpointReads_text (hJ _ hl)).1 rfl⟩
  generalize hr : checkpointReads U J (ws.foldl (checkpointAppend J) []) = reads at hreads hmem
  have hraised : .raised ∉ reads := by
    intro h
    obtain ⟨w, -, hw⟩ := hreads _ h
    cases hw
  have hload : l.record ∈ checkpointLoad (reads.filterMap LineRead.toRecord) := by
    refine mem_checkpointLoad (mem_filterMap.mpr ⟨_, hmem, rfl⟩) fun x hx hk => ?_
    obtain ⟨y, hy, hyx⟩ := mem_filterMap.mp hx
    obtain ⟨w, hw, rfl⟩ := hreads y hy
    obtain rfl : w.line.record = x := Option.some.inj hyx
    exact hkey w hw hk
  refine ⟨_, by rw [loadCheckpoint, hr, if_neg hraised], hload, ?_⟩
  generalize checkpointLoad (reads.filterMap LineRead.toRecord) = shipped at hload
  cases hmax : shipped.argmax (·.segmentSeq) with
  | none => simp [argmax_eq_none.mp hmax] at hload
  | some tail =>
    have hle := le_of_mem_argmax hload hmax
    unfold resumeState
    rw [hmax]
    cases state with
    | none => exact ⟨_, rfl, hle⟩
    | some st =>
      by_cases h : tail.segmentSeq ≤ st.segmentSeq
      · exact ⟨st, if_pos h, hle.trans h⟩
      · exact ⟨_, if_neg h, hle⟩

namespace CheckpointSample

/-- The line of a shipped segment. -/
def line : CheckpointLine := ⟨⟨7, "ab".toList, 5⟩, "cd".toList, "yard.7".toList⟩

def ascii : PyText := ⟨Char.isWhitespace, Char.isDigit, List.map Char.toLower⟩

example : PyJson.plain.dumps line.value =
    ("\x7b\"body_sha256\": \"cd\", \"capture_end_utc_ns\": 5, \"segment_seq\": 7, " ++
      "\"segment_sha256\": \"ab\", \"shipped_as\": \"yard.7\"\x7d").toList := by decide +kernel

theorem oneLine_wholeFloat (x : Option Rat) : OneLine (wholeFloat x) := by
  unfold wholeFloat
  split
  · split_ifs
    · exact (oneLine_intStr _).append (oneLine_of_all rfl)
    · exact nofun
  · exact oneLine_of_all rfl

theorem readsBack : PyJson.plain.ReadsBack ascii line where
  float := oneLine_wholeFloat
  whole := by
    have h : (PyJson.plain.loads (ascii.strip (PyJson.plain.dumps line.value))).any
        (·.same line.value.sortKeys) = true := by decide +kernel
    obtain ⟨v, hv, heq⟩ := (Option.any_eq_true _ _).mp h
    exact ⟨by decide +kernel, by rw [hv, PyValue.eq_of_same heq]⟩
  torn := by
    have h : ((range (PyJson.plain.dumps line.value).length).all fun n =>
        (PyJson.plain.loads (ascii.strip ((PyJson.plain.dumps line.value).take n))).isNone) = true := by
      decide +kernel
    intro n hn
    exact .inr (Option.isNone_iff_eq_none.mp (all_eq_true.mp h n (mem_range.mpr hn)))

end CheckpointSample
open CheckpointSample

theorem checkpoint_two_appends :
    ∃ shipped, loadCheckpoint ascii .plain
      ([⟨line, none⟩, ⟨line, none⟩].foldl (checkpointAppend .plain) []) = some shipped ∧
      line.record ∈ shipped := by
  obtain ⟨shipped, hload, hmem, -⟩ := checkpoint_appended_kept (U := ascii) (J := .plain) (l := line)
    [⟨line, none⟩, ⟨line, none⟩] (by simp [readsBack])
    ⟨.inl rfl, .inr ⟨PyJson.plain.dumps line.value, by decide +kernel⟩, trivial⟩ (by simp) (by simp) none
  exact ⟨shipped, hload, hmem⟩

/-- The record is written behind the first character of a torn line: nothing is loaded. -/
theorem checkpoint_torn_line :
    PyJson.plain.ReadsBack ascii line ∧
    loadCheckpoint ascii .plain
      ([⟨line, some 1⟩, ⟨line, none⟩].foldl (checkpointAppend .plain) []) = some [] :=
  ⟨readsBack, by decide +kernel⟩

end Virp
