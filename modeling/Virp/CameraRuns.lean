import Virp.Camera

/-! # Runs of the live camera producer

What a run delivers and removes, over captures in any order, ships that fail although the job
may have arrived, and stops at any point.

A number is taken when the record that carries it is written to the checkpoint.  Until then
another file can be given the same number, and a file that is offered again is given to the
validator again.  So the result is for runs in which a body is built only while no body of
another file, and no body with another verdict, is staged under its number.
-/
namespace Virp

open Machine List CameraAct

variable {σ : Type} {E : CameraEnv σ} {s : CameraState σ} {p : CameraProc σ} {w : SegmentWork σ}
  {D : List (SegmentBody σ)} {b : SegmentBody σ} {checkpoint : List CheckpointRecord}
  {r : CheckpointRecord} {f : StoredFile} {name : PyStr}

variable {n : PyStr}

theorem fileAt_putFile {workdir : List (PyStr × StoredFile)} :
    fileAt (putFile workdir name f) n = if n = name then some f else fileAt workdir n := by
  unfold fileAt putFile removeFile
  rw [lookup_cons]
  by_cases hn : n = name
  · simp [hn]
  rw [if_neg hn]
  simp only [beq_eq_false_iff_ne.mpr hn]
  induction workdir with
  | nil => rfl
  | cons x workdir ih =>
    by_cases hx : x.1 = name
    · rw [filter_cons_of_neg (by simpa using hx), ih, lookup_cons,
        beq_eq_false_iff_ne.mpr (fun h => hn (h.trans hx))]
    · rw [filter_cons_of_pos (by simpa using hx), lookup_cons, lookup_cons, ih]

theorem fileAt_removeFile {workdir : List (PyStr × StoredFile)} (h : n ≠ name) :
    fileAt (removeFile workdir name) n = fileAt workdir n := by
  have hput : fileAt (putFile workdir name ⟨[], 0⟩) n = _ := fileAt_putFile
  rwa [if_neg h, fileAt, putFile, lookup_cons, beq_eq_false_iff_ne.mpr h] at hput

theorem mem_segmentNames {workdir : List (PyStr × StoredFile)} (h : fileAt workdir name = some f)
    (hmp4 : ".mp4".toList.isSuffixOf name = true) : name ∈ segmentNames workdir := by
  obtain ⟨l₁, l₂, hl, -⟩ := lookup_eq_some_iff.mp h
  have hmem : name ∈ workdir.map (·.1) := by rw [hl]; simp
  exact (mem_insertionSort _).mpr (mem_filter.mpr ⟨hmem, hmp4⟩)

/-! ## The checkpoint -/

/-- The state a checkpoint stands for. -/
def tailState (checkpoint : List CheckpointRecord) : Option LiveState :=
  checkpoint.getLast?.map (·.state)

theorem putRecord_fresh {shipped : List CheckpointRecord} (h : r.key ∉ shipped.map (·.key)) :
    putRecord shipped r = shipped ++ [r] := by
  refine if_neg ?_
  rw [any_eq_true]
  rintro ⟨x, hx, hk⟩
  exact h (mem_map.mpr ⟨x, hx, by simpa using hk⟩)

variable {lines : List CheckpointRecord} {loop loop' : LiveLoop} {m : CameraMode}
  {gap : Option SegmentGap} {d : Rat}

/-- Lines with distinct keys are loaded as they are. -/
theorem checkpointLoad_eq (h : (lines.map (·.key)).Nodup) : checkpointLoad lines = lines := by
  induction lines using reverseRecOn with
  | nil => rfl
  | append_singleton lines r ih =>
    rw [map_append, nodup_append] at h
    rw [checkpointLoad, foldl_append, foldl_cons, foldl_nil,
      show lines.foldl putRecord [] = lines from ih h.1]
    refine putRecord_fresh fun hm => ?_
    exact h.2.2 _ hm _ (by simp) rfl

variable {key : SegmentKey}

theorem isSome_shippedRecord {shipped : List CheckpointRecord} :
    (shippedRecord shipped key).isSome = true ↔ key ∈ shipped.map (·.key) := by
  simp [shippedRecord, find?_isSome, mem_map]

theorem mem_putRecord {shipped : List CheckpointRecord} {x : CheckpointRecord} :
    x ∈ putRecord shipped r ↔ x = r ∨ x ∈ shipped ∧ x.key ≠ r.key := by
  unfold putRecord
  split_ifs with h
  · obtain ⟨y, hy, hk⟩ := any_eq_true.mp h
    rw [mem_map]
    constructor
    · rintro ⟨z, hz, rfl⟩
      split_ifs with hzk
      · exact .inl rfl
      · exact .inr ⟨hz, hzk⟩
    · rintro (rfl | ⟨hx, hne⟩)
      · exact ⟨y, hy, if_pos (by simpa using hk)⟩
      · exact ⟨x, hx, if_neg hne⟩
  · have hne : ∀ y ∈ shipped, y.key ≠ r.key := by simpa using h
    rw [mem_append, mem_singleton, or_comm]
    exact or_congr_right (iff_self_and.mpr (hne x))

theorem mem_key_putRecord {shipped : List CheckpointRecord} :
    key ∈ (putRecord shipped r).map (·.key) ↔ key ∈ shipped.map (·.key) ∨ key = r.key := by
  simp only [mem_map, mem_putRecord]
  constructor
  · rintro ⟨x, rfl | ⟨hx, -⟩, rfl⟩
    · exact .inr rfl
    · exact .inl ⟨x, hx, rfl⟩
  · rintro (⟨x, hx, rfl⟩ | rfl)
    · by_cases h : x.key = r.key
      · exact ⟨r, .inl rfl, h.symm⟩
      · exact ⟨x, .inr ⟨hx, h⟩, rfl⟩
    · exact ⟨r, .inl rfl, rfl⟩

/-- The lines are numbered from 0. -/
def Numbered (checkpoint : List CheckpointRecord) : Prop :=
  ∀ (i : Nat) (r : CheckpointRecord), checkpoint[i]? = some r → r.segmentSeq = i

section
variable (h : Numbered checkpoint)
include h

theorem Numbered.lt (hr : r ∈ checkpoint) : r.segmentSeq < checkpoint.length := by
  obtain ⟨i, hi⟩ := List.mem_iff_getElem?.mp hr
  rw [h i r hi]
  exact (List.getElem?_eq_some_iff.mp hi).1

theorem Numbered.getElem? (hr : r ∈ checkpoint) : checkpoint[r.segmentSeq]? = some r := by
  obtain ⟨i, hi⟩ := mem_iff_getElem?.mp hr
  rwa [h i r hi]

theorem Numbered.concat (hr : r.segmentSeq = checkpoint.length) : Numbered (checkpoint ++ [r]) := by
  intro i x hx
  rcases Nat.lt_trichotomy i checkpoint.length with hi | hi | hi
  · rw [getElem?_append_left hi] at hx
    exact h i x hx
  · subst hi
    rw [getElem?_concat_length] at hx
    exact (Option.some.inj hx) ▸ hr
  · rw [getElem?_eq_none (by simp; omega)] at hx
    cases hx

theorem nextSeq_tailState : nextSeq (tailState checkpoint) = checkpoint.length := by
  rcases eq_nil_or_concat checkpoint with rfl | ⟨lines, r, rfl⟩
  · rfl
  · rw [concat_eq_append] at h ⊢
    have hr : r.segmentSeq = lines.length := h lines.length r getElem?_concat_length
    simp [tailState, nextSeq, CheckpointRecord.state, hr]

end

/-- The line before a number. -/
theorem tailState_sha : (tailState checkpoint).map (·.lastSegmentSha256) =
      checkpoint.getLast?.map (·.segmentSha256) := by
  simp [tailState, Function.comp_def, CheckpointRecord.state]

/-- Starting takes the state from the checkpoint. -/
theorem resumeState_eq (h : Numbered checkpoint) {st : Option LiveState}
    (hst : st = none ∨ ∃ r ∈ checkpoint, st = some r.state) :
    resumeState st checkpoint = tailState checkpoint := by
  rcases eq_nil_or_concat checkpoint with rfl | ⟨lines, last, rfl⟩
  · rcases hst with rfl | ⟨r, hr, -⟩
    · rfl
    · exact absurd hr not_mem_nil
  rw [concat_eq_append] at h hst ⊢
  have hlast : last.segmentSeq = lines.length := h _ last getElem?_concat_length
  cases hmax : (lines ++ [last]).argmax (·.segmentSeq) with
  | none => simp [argmax_eq_none] at hmax
  | some m =>
    -- the greatest number is that of the last line
    have hm : m ∈ lines ++ [last] := argmax_mem hmax
    have hle : last.segmentSeq ≤ m.segmentSeq := le_of_mem_argmax (by simp) hmax
    have hlt := h.lt hm
    have hmlast : m = last := by
      have h1 := h.getElem? hm
      have h2 := h.getElem? (r := last) (by simp)
      have hseq : m.segmentSeq = last.segmentSeq := by simp at hlt; omega
      rw [hseq] at h1
      exact Option.mem_unique h1 h2
    subst hmlast
    have htail : tailState (lines ++ [m]) = some m.state := by simp [tailState]
    rw [htail]
    rcases hst with rfl | ⟨r, hr, rfl⟩
    · simp [resumeState, hmax]
    simp only [resumeState, hmax]
    split
    · rename_i hge
      have hrlt := h.lt hr
      have hseq : r.segmentSeq = m.segmentSeq := by
        simp [CheckpointRecord.state] at hge hrlt
        omega
      have h1 := h.getElem? hr
      have h2 := h.getElem? hm
      rw [hseq] at h1
      rw [Option.mem_unique h1 h2]
    · rfl

/-- When each action is chosen. -/
inductive Chooses (E : CameraEnv σ) (s : CameraState σ) (p : CameraProc σ) : CameraAction σ → Prop
  | wait : Chooses E s p .wait
  | stop : Chooses E s p .stop
  | goLive (hw : p.work = none) (hm : p.mode = .reconcile) (ht : p.todo = []) :
      Chooses E s p .goLive
  | skip loop loop' (hw : p.work = none) (hm : p.mode = .live loop)
      (hgap : loop'.pendingGap = loop.pendingGap) : Chooses E s p (.skip loop')
  | settle name rest f (hw : p.work = none) (ht : p.todo = name :: rest)
      (hf : fileAt s.workdir name = some f)
      (hwhy : (shippedRecord p.shipped (E.fileKey f)).isSome = true ∨ E.durationS f.data = none) :
      Chooses E s p (.settle name f)
  | build name rest f d (hw : p.work = none) (ht : p.todo = name :: rest)
      (hf : fileAt s.workdir name = some f) (hs : shippedRecord p.shipped (E.fileKey f) = none)
      (hd : E.durationS f.data = some d)
      (hstaged : p.mode = .reconcile → stagedPair E s.outbox (E.fileKey f) = none) :
      Chooses E s p (.build name f d)
  | reship name rest f d b (hw : p.work = none) (hm : p.mode = .reconcile)
      (ht : p.todo = name :: rest) (hf : fileAt s.workdir name = some f)
      (hs : shippedRecord p.shipped (E.fileKey f) = none) (hd : E.durationS f.data = some d)
      (hb : stagedPair E s.outbox (E.fileKey f) = some b) : Chooses E s p (.reship name f b)
  | work w (hw : p.work = some w) : Chooses E s p (.work w)

theorem chooses_reconcileAction (hw : p.work = none) (hm : p.mode = .reconcile) :
    Chooses E s p (reconcileAction E s p) := by
  unfold reconcileAction
  split
  · rename_i ht
    exact .goLive hw hm ht
  rename_i name rest ht
  split
  · exact .stop
  rename_i f hf
  split
  · rename_i hs
    exact .settle name rest f hw ht hf (.inl (by rw [hs]; rfl))
  · rename_i _ hd
    exact .settle name rest f hw ht hf (.inr hd)
  rename_i d hs hd
  split
  · rename_i b hb
    exact .reship name rest f d b hw hm ht hf hs hd hb
  · rename_i hb
    exact .build name rest f d hw ht hf hs hd fun _ => hb

theorem chooses_liveAction (hw : p.work = none) (hm : p.mode = .live loop) :
    Chooses E s p (liveAction E s p loop) := by
  unfold liveAction
  split
  · split
    · exact .stop
    · exact .wait
  rename_i name rest ht
  split
  · exact .skip loop loop hw hm rfl
  rename_i f hf
  dsimp only
  split
  · exact .skip loop loop hw hm rfl
  split
  · exact .skip loop loop hw hm rfl
  split
  · exact .skip loop _ hw hm rfl
  split
  · rename_i hs
    exact .settle name rest f hw ht hf (.inl (by rw [hs]; rfl))
  · split
    · exact .skip loop _ hw hm rfl
    · exact .skip loop _ hw hm rfl
  · rename_i d hs hd
    exact .build name rest f d hw ht hf hs hd fun h => (by rw [hm] at h; exact nomatch h)

theorem chooses_cameraAction (E : CameraEnv σ) (s : CameraState σ) (p : CameraProc σ) :
    Chooses E s p (cameraAction E s p) := by
  unfold cameraAction
  split
  · rename_i w hw
    exact .work w hw
  · rename_i hw hm
    exact chooses_reconcileAction hw hm
  · rename_i loop hw hm
    exact chooses_liveAction hw hm

theorem stagedPair_eq_some {outbox : List (SegmentBody σ)} (h : stagedPair E outbox key = some b) :
    b ∈ outbox ∧ b.key = key := by
  have hmem := mem_of_find?_eq_some h
  have hkey := find?_some h
  rw [mem_reverse, mem_insertionSort] at hmem
  exact ⟨(mem_filter.mp hmem).1, by simpa using hkey⟩

theorem stagedPair_eq_none {outbox : List (SegmentBody σ)} (h : stagedPair E outbox key = none) :
    ∀ b ∈ outbox, b.key ≠ key := by
  intro b hb hkey
  have hsuf : ('.' :: b.segmentSha256).isSuffixOf (E.jobName b) = true :=
    isSuffixOf_iff_suffix.mpr ⟨E.cameraId ++ '.' :: paddedStr b.segmentSeq, rfl⟩
  rw [show b.segmentSha256 = key.1 from congrArg Prod.fst hkey] at hsuf
  have hmem : b ∈ ((outbox.filter fun b => ('.' :: key.1).isSuffixOf (E.jobName b)).insertionSort
      fun a b => E.jobName a ≤ E.jobName b).reverse := by
    rw [mem_reverse, mem_insertionSort]
    exact mem_filter.mpr ⟨hb, hsuf⟩
  exact absurd (find?_eq_none.mp h b hmem) (by simp [hkey])

theorem mem_stage {outbox : List (SegmentBody σ)} {x : SegmentBody σ} :
    x ∈ stage E outbox b ↔ (x ∈ outbox ∧ E.jobName x ≠ E.jobName b) ∨ x = b := by
  simp [stage]

/-! ## What the durable files say -/

/-- The segment of a staged body waits under a name. -/
def Waits (E : CameraEnv σ) (workdir : List (PyStr × StoredFile)) (b : SegmentBody σ)
    (name : PyStr) : Prop :=
  ".mp4".toList.isSuffixOf name = true ∧
    ∃ f, fileAt workdir name = some f ∧ b.key = E.fileKey f ∧ E.durationS f.data = some b.durationS

/-- A body is built after the line before its number. -/
def Follows (checkpoint : List CheckpointRecord) (b : SegmentBody σ) : Prop :=
  match b.segmentSeq with
  | 0 => b.prevSegmentSha256 = none
  | i + 1 => ∃ r, checkpoint[i]? = some r ∧ b.prevSegmentSha256 = some r.segmentSha256

/-- What holds of the files and of the bodies `D` delivered so far. -/
structure Durable (E : CameraEnv σ) (workdir : List (PyStr × StoredFile))
    (outbox : List (SegmentBody σ)) (checkpoint : List CheckpointRecord)
    (stateFile : Option LiveState) (D : List (SegmentBody σ)) : Prop where
  numbered : Numbered checkpoint
  keys : (checkpoint.map (·.key)).Nodup
  logged : ∀ r ∈ checkpoint, ∃ b ∈ D, b.line = r
  /-- a staged body is on the checkpoint, or has the next number and its file is waiting -/
  staged : ∀ b ∈ outbox, b.line ∈ checkpoint ∨
    (b.segmentSeq = checkpoint.length ∧ b.key ∉ checkpoint.map (·.key) ∧
      ∃ name, Waits E workdir b name)
  one : ∀ a ∈ outbox, ∀ b ∈ outbox, a.segmentSeq = checkpoint.length →
    b.segmentSeq = checkpoint.length → a = b
  shipped : ∀ b ∈ D, b.line ∈ checkpoint ∨ (b ∈ outbox ∧ b.segmentSeq = checkpoint.length)
  same : ∀ a ∈ D, ∀ b ∈ D, a.segmentSeq = b.segmentSeq → a = b
  follows : ∀ b, b ∈ outbox ∨ b ∈ D → Follows checkpoint b
  start : ∀ b ∈ outbox, b.captureStartNs = b.captureEndNs - E.durationNs b.durationS
  state : stateFile = none ∨ ∃ r ∈ checkpoint, stateFile = some r.state

section Durable

variable {workdir : List (PyStr × StoredFile)} {outbox : List (SegmentBody σ)}
  {checkpoint : List CheckpointRecord} {stateFile : Option LiveState} {D : List (SegmentBody σ)}

theorem Durable.init : Durable E [] [] [] none [] where
  numbered i r h := by simp at h
  keys := nodup_nil
  logged r h := absurd h not_mem_nil
  staged b h := absurd h not_mem_nil
  one a h := absurd h not_mem_nil
  shipped b h := absurd h not_mem_nil
  same a h := absurd h not_mem_nil
  follows b h := by simp at h
  start b h := absurd h not_mem_nil
  state := .inl rfl

/-- What is staged under the next number is not on the checkpoint, and its file waits. -/
theorem Durable.waiting (h : Durable E workdir outbox checkpoint stateFile D) (hb : b ∈ outbox)
    (hseq : b.segmentSeq = checkpoint.length) :
    b.key ∉ checkpoint.map (·.key) ∧ ∃ name, Waits E workdir b name := by
  rcases h.staged b hb with hl | ⟨-, hkey, hw⟩
  · exact absurd (hseq ▸ h.numbered.lt hl) (Nat.lt_irrefl _)
  · exact ⟨hkey, hw⟩

/-- The directory changes, but no waiting file goes. -/
theorem Durable.setWorkdir (h : Durable E workdir outbox checkpoint stateFile D)
    {workdir' : List (PyStr × StoredFile)}
    (hkeep : ∀ b ∈ outbox, b.key ∉ checkpoint.map (·.key) → ∀ name,
      Waits E workdir b name → Waits E workdir' b name) :
    Durable E workdir' outbox checkpoint stateFile D where
  numbered := h.numbered
  keys := h.keys
  logged := h.logged
  staged b hb := (h.staged b hb).imp_right fun ⟨hseq, hkey, name, hw⟩ =>
    ⟨hseq, hkey, name, hkeep b hb hkey name hw⟩
  one := h.one
  shipped := h.shipped
  same := h.same
  follows := h.follows
  start := h.start
  state := h.state

theorem Waits.removeFile (hf : fileAt workdir name = some f)
    (hwhy : E.fileKey f ∈ checkpoint.map (·.key) ∨ E.durationS f.data = none)
    (hkey : b.key ∉ checkpoint.map (·.key)) (h : Waits E workdir b n) :
    Waits E (removeFile workdir name) b n := by
  obtain ⟨hmp4, g, hg, hgk, hgd⟩ := h
  refine ⟨hmp4, g, ?_, hgk, hgd⟩
  rw [fileAt_removeFile, hg]
  rintro rfl
  obtain rfl := Option.mem_unique hf hg
  rcases hwhy with hmem | hnone
  · exact hkey (hgk ▸ hmem)
  · exact absurd (hnone.symm.trans hgd) (by simp)

theorem Waits.putFile
    (hopen : ((fileAt workdir name).bind fun f => E.durationS f.data).isSome = false)
    (h : Waits E workdir b n) : Waits E (putFile workdir name f) b n := by
  obtain ⟨hmp4, g, hg, hgk, hgd⟩ := h
  refine ⟨hmp4, g, ?_, hgk, hgd⟩
  rw [fileAt_putFile, if_neg, hg]
  rintro rfl
  rw [hg, Option.bind_some, hgd] at hopen
  exact nomatch hopen

/-- A new body is staged under the next number, if every body staged under it is the same. -/
theorem Durable.stage (h : Durable E workdir outbox checkpoint stateFile D)
    (hseq : b.segmentSeq = checkpoint.length) (hkey : b.key ∉ checkpoint.map (·.key))
    (hw : Waits E workdir b name) (hfollows : Follows checkpoint b)
    (hstart : b.captureStartNs = b.captureEndNs - E.durationNs b.durationS)
    (hsame : ∀ x ∈ outbox, x.segmentSeq = checkpoint.length → x = b) :
    Durable E workdir (stage E outbox b) checkpoint stateFile D where
  numbered := h.numbered
  keys := h.keys
  logged := h.logged
  staged x hx := by
    rcases mem_stage.mp hx with ⟨hx, -⟩ | rfl
    · exact h.staged x hx
    · exact .inr ⟨hseq, hkey, name, hw⟩
  one := by
    have hall : ∀ x ∈ Virp.stage E outbox b, x.segmentSeq = checkpoint.length → x = b := by
      intro x hx hs
      rcases mem_stage.mp hx with ⟨hx, -⟩ | rfl
      · exact hsame x hx hs
      · rfl
    intro x hx y hy hsx hsy
    rw [hall x hx hsx, hall y hy hsy]
  shipped x hx := by
    rcases h.shipped x hx with hl | ⟨hmem, hs⟩
    · exact .inl hl
    · exact .inr ⟨mem_stage.mpr (.inr (hsame x hmem hs)), hs⟩
  same := h.same
  follows x hx := by
    rcases hx with hx | hx
    · rcases mem_stage.mp hx with ⟨hx, -⟩ | rfl
      · exact h.follows x (.inl hx)
      · exact hfollows
    · exact h.follows x (.inr hx)
  start x hx := by
    rcases mem_stage.mp hx with ⟨hx, -⟩ | rfl
    · exact h.start x hx
    · exact hstart
  state := h.state

/-- The body staged under the next number is delivered. -/
theorem Durable.deliver (h : Durable E workdir outbox checkpoint stateFile D) (hb : b ∈ outbox)
    (hseq : b.segmentSeq = checkpoint.length) :
    Durable E workdir outbox checkpoint stateFile (D ++ [b]) where
  numbered := h.numbered
  keys := h.keys
  logged r hr := by
    obtain ⟨x, hx, hl⟩ := h.logged r hr
    exact ⟨x, mem_append_left _ hx, hl⟩
  staged := h.staged
  one := h.one
  shipped x hx := by
    rcases mem_append.mp hx with hx | hx
    · exact h.shipped x hx
    · rw [mem_singleton.mp hx]
      exact .inr ⟨hb, hseq⟩
  same := by
    -- what was delivered under the next number is this body
    have hnew : ∀ x ∈ D, x.segmentSeq = b.segmentSeq → x = b := by
      intro x hx hs
      rcases h.shipped x hx with hl | ⟨hmem, hs'⟩
      · have := h.numbered.lt hl
        simp only [SegmentBody.line] at this
        omega
      · exact h.one x hmem b hb hs' hseq
    intro x hx y hy hs
    rcases mem_append.mp hx with hx | hx <;> rcases mem_append.mp hy with hy | hy
    · exact h.same x hx y hy hs
    · rw [mem_singleton.mp hy] at hs ⊢
      exact hnew x hx hs
    · rw [mem_singleton.mp hx] at hs ⊢
      exact (hnew y hy hs.symm).symm
    · rw [mem_singleton.mp hx, mem_singleton.mp hy]
  follows x hx := by
    rcases hx with hx | hx
    · exact h.follows x (.inl hx)
    · rcases mem_append.mp hx with hx | hx
      · exact h.follows x (.inr hx)
      · exact h.follows x (.inl ((mem_singleton.mp hx) ▸ hb))
  start := h.start
  state := h.state

theorem Follows.concat (h : Follows checkpoint b) (r : CheckpointRecord) :
    Follows (checkpoint ++ [r]) b := by
  unfold Follows at h ⊢
  split
  · rename_i hz
    rw [hz] at h
    exact h
  · rename_i i hi
    rw [hi] at h
    obtain ⟨x, hx, hp⟩ := h
    refine ⟨x, ?_, hp⟩
    rw [getElem?_append_left (List.getElem?_eq_some_iff.mp hx).1, hx]

/-- A delivered body is written to the checkpoint; after that nothing has the next number. -/
theorem Durable.append (h : Durable E workdir outbox checkpoint stateFile D) (hb : b ∈ outbox)
    (hD : b ∈ D) (hseq : b.segmentSeq = checkpoint.length) :
    Durable E workdir outbox (checkpoint ++ [b.line]) stateFile D ∧
      ∀ x ∈ outbox, x.segmentSeq ≠ (checkpoint ++ [b.line]).length := by
  have hline : ∀ x ∈ outbox, x.line ∈ checkpoint ++ [b.line] := by
    intro x hx
    rcases h.staged x hx with hl | ⟨hs, -, -⟩
    · exact mem_append_left _ hl
    · rw [h.one x hx b hb hs hseq]
      simp
  have hnum : Numbered (checkpoint ++ [b.line]) := h.numbered.concat hseq
  have hne : ∀ x ∈ outbox, x.segmentSeq ≠ (checkpoint ++ [b.line]).length :=
    fun x hx => Nat.ne_of_lt (hnum.lt (hline x hx))
  have hfresh : b.key ∉ checkpoint.map (·.key) := (h.waiting hb hseq).1
  refine ⟨⟨hnum, ?_, ?_, fun x hx => .inl (hline x hx), fun x hx _ _ hs => absurd hs (hne x hx),
    ?_, h.same, fun x hx => (h.follows x hx).concat _, h.start, ?_⟩, hne⟩
  · rw [map_append, nodup_append]
    refine ⟨h.keys, by simp, ?_⟩
    rintro k hk _ hk' rfl
    simp only [map_cons, map_nil, mem_singleton] at hk'
    exact hfresh (show b.line.key ∈ _ from hk' ▸ hk)
  · intro r hr
    rcases mem_append.mp hr with hr | hr
    · exact h.logged r hr
    · exact ⟨b, hD, (mem_singleton.mp hr).symm⟩
  · intro x hx
    rcases h.shipped x hx with hl | ⟨hmem, -⟩
    · exact .inl (mem_append_left _ hl)
    · exact .inl (hline x hmem)
  · rcases h.state with hnone | ⟨r, hr, hst⟩
    · exact .inl hnone
    · exact .inr ⟨r, mem_append_left _ hr, hst⟩

theorem Durable.save (h : Durable E workdir outbox checkpoint stateFile D) (hr : r ∈ checkpoint) :
    Durable E workdir outbox checkpoint (some r.state) D where
  numbered := h.numbered
  keys := h.keys
  logged := h.logged
  staged := h.staged
  one := h.one
  shipped := h.shipped
  same := h.same
  follows := h.follows
  start := h.start
  state := .inr ⟨r, hr, rfl⟩

end Durable

/-- The checkpoint lines the process has taken into account: the one it has just written only
once its state is saved. -/
def CameraProc.known (p : CameraProc σ) (checkpoint : List CheckpointRecord) :
    List CheckpointRecord :=
  match p.work with
  | some w => if w.stage = .save then checkpoint.dropLast else checkpoint
  | none => checkpoint

/-- A segment being handed off is still in the directory; its body is staged under the next
number until its line is written, and then nothing is. -/
structure WorkOk (E : CameraEnv σ) (workdir : List (PyStr × StoredFile))
    (outbox : List (SegmentBody σ)) (checkpoint : List CheckpointRecord)
    (D : List (SegmentBody σ)) (w : SegmentWork σ) : Prop where
  file : ∃ f, fileAt workdir w.name = some f ∧ E.fileKey f = w.body.key ∧
    (E.durationS f.data).isSome = true
  stage : match w.stage with
    | .ship => w.body ∈ outbox ∧ w.body.segmentSeq = checkpoint.length
    | .checkpoint => w.body ∈ outbox ∧ w.body.segmentSeq = checkpoint.length ∧ w.body ∈ D
    | .save => checkpoint.getLast? = some w.body.line ∧
        ∀ b ∈ outbox, b.segmentSeq ≠ checkpoint.length
    | .unlink => w.body.line ∈ checkpoint ∧ ∀ b ∈ outbox, b.segmentSeq ≠ checkpoint.length

/-- What holds of the running process. -/
structure Running (E : CameraEnv σ) (workdir : List (PyStr × StoredFile))
    (outbox : List (SegmentBody σ)) (checkpoint : List CheckpointRecord)
    (D : List (SegmentBody σ)) (p : CameraProc σ) : Prop where
  state : p.state = tailState (p.known checkpoint)
  shipped : ∀ key, (shippedRecord p.shipped key).isSome = true ↔
    key ∈ (p.known checkpoint).map (·.key)
  work : ∀ w, p.work = some w → WorkOk E workdir outbox checkpoint D w
  names : ∀ name ∈ p.todo, ".mp4".toList.isSuffixOf name = true
  /-- a body staged by an earlier run is found again -/
  reconcile : p.mode = .reconcile → p.work = none → ∀ b ∈ outbox,
    b.segmentSeq = checkpoint.length → ∃ name ∈ p.todo, Waits E workdir b name
  /-- a body staged by this run would get the same gap again -/
  live : ∀ loop, p.mode = .live loop → ∀ b ∈ outbox, b.segmentSeq = checkpoint.length →
    b.gap = continuityGap p.state b.captureStartNs loop.pendingGap

/-- What is kept along a run. -/
structure CameraOk (E : CameraEnv σ) (s : CameraState σ) (D : List (SegmentBody σ)) : Prop where
  durable : Durable E s.workdir s.outbox s.checkpoint s.stateFile D
  running : ∀ p, s.proc = some p → Running E s.workdir s.outbox s.checkpoint D p

theorem CameraOk.down (h : CameraOk E s D) :
    CameraOk E { s with proc := none } D := ⟨h.durable, fun _ hp => nomatch hp⟩

/-- The step leaves the files alone. -/
theorem CameraOk.proc (h : CameraOk E s D) (hp : Running E s.workdir s.outbox s.checkpoint D p) :
    CameraOk E { s with proc := some p } D := ⟨h.durable, fun _ hq => Option.some.inj hq ▸ hp⟩

theorem known_of_work_none (h : p.work = none) (checkpoint : List CheckpointRecord) :
    p.known checkpoint = checkpoint := by
  simp [CameraProc.known, h]

theorem known_of_stage (h : p.work = some w) (hs : w.stage ≠ .save) (checkpoint : List CheckpointRecord) :
    p.known checkpoint = checkpoint := by
  simp [CameraProc.known, h, hs]

theorem CameraOk.start (h : CameraOk E s D) (hp : s.proc = none) :
    CameraOk E (cameraStep E s .start).1 D := by
  have hload := checkpointLoad_eq h.durable.keys
  simp only [cameraStep, hp, hload]
  refine h.proc ⟨?_, ?_, fun w hw => (nomatch hw), ?_, ?_, fun loop hl => (nomatch hl)⟩
  · exact resumeState_eq h.durable.numbered h.durable.state
  · exact fun key => isSome_shippedRecord
  · intro name hname
    have hname := (mem_insertionSort _).mp hname
    exact (mem_filter.mp ((mem_insertionSort _).mp hname)).2
  · intro _ _ b hb hseq
    -- its line is not on the checkpoint, so its file is waiting
    obtain ⟨-, name, hw⟩ := h.durable.waiting hb hseq
    obtain ⟨hmp4, f, hf, -⟩ := id hw
    exact ⟨name, (mem_insertionSort _).mpr (mem_segmentNames hf hmp4), hw⟩

theorem CameraOk.capture (h : CameraOk E s D) (name : PyStr) (file : StoredFile)
    (hopen : ((fileAt s.workdir name).bind fun f => E.durationS f.data).isSome = false) :
    CameraOk E { s with workdir := putFile s.workdir name file } D := by
  refine ⟨h.durable.setWorkdir fun b _ _ n hw => hw.putFile hopen, fun p hp => ?_⟩
  have hr := h.running p hp
  refine ⟨hr.state, hr.shipped, fun w hw => ⟨?_, (hr.work w hw).stage⟩, hr.names, ?_, hr.live⟩
  · obtain ⟨f, hf, hkey, hd⟩ := (hr.work w hw).file
    refine ⟨f, ?_, hkey, hd⟩
    rw [fileAt_putFile, if_neg, hf]
    rintro rfl
    rw [hf, Option.bind_some, hd] at hopen
    exact nomatch hopen
  · intro hm hw b hb hseq
    obtain ⟨n, hn, hwait⟩ := hr.reconcile hm hw b hb hseq
    exact ⟨n, hn, hwait.putFile hopen⟩

theorem CameraOk.poll (h : CameraOk E s D) (childDone : Bool) :
    CameraOk E (cameraStep E s (.poll childDone)).1 D := by
  unfold cameraStep
  dsimp only
  split
  · rename_i p hp
    have hr := h.running p hp
    split
    · rename_i loop hm ht hw
      split
      · exact h
      refine h.proc ⟨?_, ?_, ?_, ?_, fun hl => (nomatch hl), ?_⟩
      · exact hr.state
      · exact hr.shipped
      · exact hr.work
      · exact fun name hname =>
          (mem_filter.mp ((mem_insertionSort _).mp hname)).2
      · intro loop' hl b hb hseq
        cases hl
        exact hr.live loop hm b hb hseq
    · exact h
  · exact h

theorem CameraOk.goLive (h : CameraOk E s D) (hp : s.proc = some p) (hw : p.work = none)
    (hm : p.mode = .reconcile) (ht : p.todo = []) (loop : LiveLoop) :
    CameraOk E { s with proc := some { p with mode := .live loop } } D := by
  have hr := h.running p hp
  refine h.proc ⟨hr.state, hr.shipped, hr.work, hr.names, fun hl => (nomatch hl), ?_⟩
  intro _ _ b hb hseq
  obtain ⟨name, hname, -⟩ := hr.reconcile hm hw b hb hseq
  rw [ht] at hname
  exact absurd hname not_mem_nil

theorem CameraOk.skip (h : CameraOk E s D) (hp : s.proc = some p) (hm : p.mode = .live loop)
    (hgap : loop'.pendingGap = loop.pendingGap) :
    CameraOk E { s with proc := some { p with mode := .live loop', todo := p.todo.tail } } D := by
  have hr := h.running p hp
  refine h.proc ⟨hr.state, hr.shipped, hr.work, ?_, fun hl => (nomatch hl), ?_⟩
  · exact fun name hname => hr.names name (mem_of_mem_tail hname)
  · intro loop'' hl b hb hseq
    cases hl
    rw [hgap]
    exact hr.live loop hm b hb hseq

theorem handle_eq_reconcile (h : m.handle name f gap = .reconcile) : m = .reconcile := by
  cases m with
  | reconcile => rfl
  | live loop => exact nomatch h

theorem handle_eq_live (h : m.handle name f gap = .live loop') :
    ∃ loop, m = .live loop ∧ loop'.pendingGap = gap := by
  cases m with
  | reconcile => exact nomatch h
  | live loop =>
    cases h
    exact ⟨loop, rfl, rfl⟩

theorem CameraOk.settle (h : CameraOk E s D) (hp : s.proc = some p) (hw : p.work = none)
    {rest : List PyStr} (ht : p.todo = name :: rest) (hf : fileAt s.workdir name = some f)
    (hwhy : (shippedRecord p.shipped (E.fileKey f)).isSome = true ∨ E.durationS f.data = none) :
    CameraOk E
      { s with
          workdir := removeFile s.workdir name
          proc := some { p with
            mode := p.mode.handle name f p.pendingGap
            todo := p.todo.tail } } D := by
  have hr := h.running p hp
  have hwhy' : E.fileKey f ∈ s.checkpoint.map (·.key) ∨ E.durationS f.data = none := by
    rwa [hr.shipped, known_of_work_none hw] at hwhy
  refine ⟨h.durable.setWorkdir fun b _ hkey n hwait => hwait.removeFile hf hwhy' hkey, ?_⟩
  intro p' hp'
  cases hp'
  refine ⟨hr.state, hr.shipped, ?_, ?_, ?_, ?_⟩
  · intro w hw'
    exact absurd (hw.symm.trans hw') (by simp)
  · exact fun n hn => hr.names n (mem_of_mem_tail hn)
  · intro hm _ b hb hseq
    obtain ⟨n, hn, hwait⟩ := hr.reconcile (handle_eq_reconcile hm) hw b hb hseq
    -- the waiting file is not the one that goes
    obtain ⟨hkey, -⟩ := h.durable.waiting hb hseq
    refine ⟨n, ?_, hwait.removeFile hf hwhy' hkey⟩
    rw [ht] at hn ⊢
    rcases mem_cons.mp hn with rfl | hn
    · obtain ⟨-, g, hg, hgk, hgd⟩ := hwait
      obtain rfl := Option.mem_unique hf hg
      rcases hwhy' with hmem | hnone
      · exact absurd (hgk ▸ hmem) hkey
      · exact absurd (hnone.symm.trans hgd) (by simp)
    · exact hn
  · intro loop' hl b hb hseq
    obtain ⟨loop, hm, hgap⟩ := handle_eq_live hl
    rw [hgap, CameraProc.pendingGap, hm]
    exact hr.live loop hm b hb hseq

/-! ### The hand-off -/

/-- The segment the next step builds a body for, with its duration. -/
def CameraState.building (E : CameraEnv σ) (s : CameraState σ) : Option (StoredFile × Rat) :=
  match s.proc.map (cameraAction E s) with
  | some (.build _ f d) => some (f, d)
  | _ => none

/-- The runs the result is for: when a body is built, what is staged under its number is a body
of the same segment, for which the validator says the same. -/
def Orderly (E : CameraEnv σ) (s : CameraState σ) : CameraEvent σ → Prop
  | .next sensor _ => ∀ fd ∈ s.building E, ∀ b ∈ s.outbox,
      b.segmentSeq = nextSeq (s.proc.bind (·.state)) →
      b.key = E.fileKey fd.1 ∧ b.byteLen = fd.1.data.length ∧ b.durationS = fd.2 ∧
        b.sensor = E.capturePolicy.map fun _ => sensor
  | _ => True

instance [DecidableEq σ] (s : CameraState σ) (e : CameraEvent σ) : Decidable (Orderly E s e) :=
  match e with
  | .next sensor _ => inferInstanceAs (Decidable (∀ fd ∈ s.building E, ∀ b ∈ s.outbox,
      b.segmentSeq = nextSeq (s.proc.bind (·.state)) →
      b.key = E.fileKey fd.1 ∧ b.byteLen = fd.1.data.length ∧ b.durationS = fd.2 ∧
        b.sensor = E.capturePolicy.map fun _ => sensor))
  | .capture _ _ => .isTrue trivial
  | .start => .isTrue trivial
  | .poll _ => .isTrue trivial
  | .crash => .isTrue trivial

theorem follows_next (hseq : b.segmentSeq = checkpoint.length) : Follows checkpoint b ↔
      b.prevSegmentSha256 = checkpoint.getLast?.map (·.segmentSha256) := by
  unfold Follows
  rcases eq_nil_or_concat checkpoint with rfl | ⟨lines, r, rfl⟩
  · rw [hseq]
    rfl
  · rw [concat_eq_append] at hseq ⊢
    rw [length_append, length_singleton] at hseq
    rw [hseq]
    simp

section
variable (h : CameraOk E s D)
include h

/-- A body built for a segment is the one staged for it under this number, if there is one. -/
theorem CameraOk.liveBody_eq (hp : s.proc = some p) (hw : p.work = none) {sensor : σ}
    (hstaged : p.mode = .reconcile → stagedPair E s.outbox (E.fileKey f) = none) (hb : b ∈ s.outbox)
    (hseq : b.segmentSeq = s.checkpoint.length)
    (hok : b.key = E.fileKey f ∧ b.byteLen = f.data.length ∧ b.durationS = d ∧
      b.sensor = E.capturePolicy.map fun _ => sensor) :
    b = liveBody E p.state p.pendingGap f d sensor := by
  have hr := h.running p hp
  obtain ⟨hkey, hlen, hdur, hsensor⟩ := hok
  cases hm : p.mode with
  | reconcile => exact absurd hkey (stagedPair_eq_none (hstaged hm) b hb)
  | live loop =>
    have hstate : p.state = tailState s.checkpoint := by rw [hr.state, known_of_work_none hw]
    have hprev := (follows_next hseq).mp (h.durable.follows b (.inl hb))
    have hstart := h.durable.start b hb
    have hgap := hr.live loop hm b hb hseq
    have hsha : b.segmentSha256 = (E.fileKey f).1 := congrArg Prod.fst hkey
    have hend : b.captureEndNs = f.mtimeNs := congrArg Prod.snd hkey
    rw [hend, hdur] at hstart
    rw [hstart] at hgap
    rw [← tailState_sha, ← hstate] at hprev
    have hnum : b.segmentSeq = nextSeq p.state := by
      rw [hseq, hstate, nextSeq_tailState h.durable.numbered]
    cases b
    simp only [CameraProc.pendingGap, hm, liveBody, SegmentBody.mk.injEq]
    exact ⟨hnum, hsha, hprev, hlen, hdur, hstart, hend, hgap, hsensor⟩

theorem CameraOk.build (hp : s.proc = some p) (hw : p.work = none) {rest : List PyStr} {sensor : σ}
    (ht : p.todo = name :: rest) (hf : fileAt s.workdir name = some f)
    (hs : shippedRecord p.shipped (E.fileKey f) = none) (hd : E.durationS f.data = some d)
    (hsame : ∀ b ∈ s.outbox, b.segmentSeq = s.checkpoint.length →
      b = liveBody E p.state p.pendingGap f d sensor) : CameraOk E
      { s with
          outbox := stage E s.outbox (liveBody E p.state p.pendingGap f d sensor)
          proc := some { p with
            work := some ⟨name, f, liveBody E p.state p.pendingGap f d sensor, false, .ship⟩ } }
      D := by
  have hr := h.running p hp
  have hstate : p.state = tailState s.checkpoint := by rw [hr.state, known_of_work_none hw]
  have hnum : nextSeq p.state = s.checkpoint.length := by
    rw [hstate, nextSeq_tailState h.durable.numbered]
  have hkey : E.fileKey f ∉ s.checkpoint.map (·.key) := by
    rw [← known_of_work_none hw s.checkpoint, ← hr.shipped, hs]
    simp
  generalize hbody : liveBody E p.state p.pendingGap f d sensor = b at hsame ⊢
  have hseq : b.segmentSeq = s.checkpoint.length := by rw [← hbody]; exact hnum
  have hbkey : b.key = E.fileKey f := by rw [← hbody]; rfl
  have hwait : Waits E s.workdir b name :=
    ⟨hr.names name (ht ▸ mem_cons_self), f, hf, hbkey, by rw [← hbody]; exact hd⟩
  have hfollows : Follows s.checkpoint b := by
    rw [follows_next hseq, ← tailState_sha, ← hstate, ← hbody]
    rfl
  have hall : ∀ x ∈ stage E s.outbox b, x.segmentSeq = s.checkpoint.length → x = b := by
    intro x hx hxs
    rcases mem_stage.mp hx with ⟨hx, -⟩ | rfl
    · exact hsame x hx hxs
    · rfl
  constructor
  · exact h.durable.stage hseq (hbkey ▸ hkey) hwait hfollows (by rw [← hbody]; rfl) hsame
  intro p' hp'
  cases hp'
  refine ⟨?_, ?_, ?_, hr.names, fun _ hw' => (nomatch hw'), ?_⟩
  · exact hstate
  · intro key
    have := hr.shipped key
    rwa [known_of_work_none hw] at this
  · intro w hw'
    cases hw'
    exact ⟨⟨f, hf, hbkey.symm, by rw [hd]; rfl⟩, mem_stage.mpr (.inr rfl), hseq⟩
  · intro loop hm x hx hxs
    rw [hall x hx hxs, ← hbody]
    simp only [liveBody, CameraProc.pendingGap, show p.mode = .live loop from hm]

theorem CameraOk.reship (hp : s.proc = some p) (hw : p.work = none) (hm : p.mode = .reconcile)
    (hf : fileAt s.workdir name = some f) (hs : shippedRecord p.shipped (E.fileKey f) = none)
    (hd : E.durationS f.data = some d) (hb : stagedPair E s.outbox (E.fileKey f) = some b) :
    CameraOk E { s with proc := some { p with work := some ⟨name, f, b, true, .ship⟩ } } D := by
  have hr := h.running p hp
  obtain ⟨hmem, hkey⟩ := stagedPair_eq_some hb
  have hfresh : E.fileKey f ∉ s.checkpoint.map (·.key) := by
    rw [← known_of_work_none hw s.checkpoint, ← hr.shipped, hs]
    simp
  have hseq : b.segmentSeq = s.checkpoint.length := by
    rcases h.durable.staged b hmem with hl | ⟨hseq, -⟩
    · exact absurd (mem_map.mpr ⟨_, hl, hkey⟩) hfresh
    · exact hseq
  refine h.proc ⟨?_, ?_, ?_, hr.names, fun _ hw' => (nomatch hw'), ?_⟩
  · rw [hr.state, known_of_work_none hw]
    rfl
  · intro key
    have := hr.shipped key
    rwa [known_of_work_none hw] at this
  · intro w hw'
    cases hw'
    exact ⟨⟨f, hf, hkey.symm, by rw [hd]; rfl⟩, hmem, hseq⟩
  · exact fun loop hl => absurd (hm.symm.trans hl) (by simp)

theorem CameraOk.refused (hp : s.proc = some p) (hknown : p.known s.checkpoint = s.checkpoint) :
    CameraOk E (s.refused p) D := by
  have hr := h.running p hp
  unfold CameraState.refused
  split
  · exact h.down
  rename_i loop hm
  refine h.proc ⟨?_, ?_, fun w hw => (nomatch hw), ?_, ?_, hr.live⟩
  · rw [hr.state, hknown]
    rfl
  · intro key
    have := hr.shipped key
    rwa [hknown] at this
  · exact fun name hname => absurd hname not_mem_nil
  · exact fun hm' => absurd (hm.symm.trans hm') (by simp)

/-- The body of a hand-off is delivered. -/
theorem CameraOk.delivered (hb : b ∈ s.outbox) (hseq : b.segmentSeq = s.checkpoint.length) :
    CameraOk E s (D ++ [b]) := by
  refine ⟨h.durable.deliver hb hseq, fun p hp => ?_⟩
  have hr := h.running p hp
  refine ⟨hr.state, hr.shipped, fun w hw => ⟨(hr.work w hw).file, ?_⟩, hr.names, hr.reconcile,
    hr.live⟩
  have hstage := (hr.work w hw).stage
  cases hst : w.stage with
  | checkpoint =>
    simp only [hst] at hstage
    exact ⟨hstage.1, hstage.2.1, mem_append_left _ hstage.2.2⟩
  | _ =>
    simp only [hst] at hstage
    exact hstage

theorem CameraOk.shipped (hp : s.proc = some p) (hw : p.work = some w) (hstage : w.stage = .ship) :
    CameraOk E { s with proc := some { p with work := some { w with stage := .checkpoint } } }
      (D ++ [w.body]) := by
  have hwork := ((h.running p hp).work w hw).stage
  simp only [hstage] at hwork
  have h' := h.delivered hwork.1 hwork.2
  have hr := h'.running p hp
  have hknown := known_of_stage hw (by rw [hstage]; decide) s.checkpoint
  refine h'.proc ⟨?_, ?_, ?_, hr.names, fun _ hw' => (nomatch hw'), hr.live⟩
  · rw [hr.state, hknown]
    rfl
  · intro key
    have := hr.shipped key
    rwa [hknown] at this
  · intro w' hw'
    cases hw'
    exact ⟨(hr.work w hw).file, hwork.1, hwork.2, by simp⟩

theorem CameraOk.logged (hp : s.proc = some p) (hw : p.work = some w)
    (hstage : w.stage = .checkpoint) : CameraOk E
      { s with
          checkpoint := s.checkpoint ++ [w.body.line]
          proc := some { p with work := some { w with stage := .save } } } D := by
  have hr := h.running p hp
  have hwork := (hr.work w hw).stage
  simp only [hstage] at hwork
  obtain ⟨hdur, hne⟩ := h.durable.append hwork.1 hwork.2.2 hwork.2.1
  have hknown := known_of_stage hw (by rw [hstage]; decide) s.checkpoint
  refine ⟨hdur, fun p' hp' => ?_⟩
  cases hp'
  refine ⟨?_, ?_, ?_, hr.names, fun _ hw' => (nomatch hw'), fun _ _ b hb hs => absurd hs (hne b hb)⟩
  · rw [hr.state, hknown]
    simp [CameraProc.known]
  · intro key
    have := hr.shipped key
    rw [hknown] at this
    simpa [CameraProc.known] using this
  · intro w' hw'
    cases hw'
    exact ⟨(hr.work w hw).file, by simp, hne⟩

end

/-- The state after a hand-off is that of the line just written, whether the body was built or
found. -/
theorem savedState (hnum : Numbered (lines ++ [r])) (reshipped : Bool) :
    (if reshipped then resumeState (tailState lines) [r] else some r.state) = some r.state := by
  split
  · simp only [resumeState, argmax_singleton]
    rcases eq_nil_or_concat lines with rfl | ⟨lines, x, rfl⟩
    · rfl
    rw [concat_eq_append] at hnum ⊢
    have hx : x.segmentSeq = lines.length := hnum _ x (by simp)
    have hr : r.segmentSeq = lines.length + 1 := hnum _ r (by simp)
    simp [tailState, CheckpointRecord.state, hx, hr]
  · rfl

section
variable (h : CameraOk E s D) (hp : s.proc = some p) (hw : p.work = some w)
include h hp hw

theorem CameraOk.saved (hstage : w.stage = .save) :
    CameraOk E
      { s with
          stateFile := if w.reshipped then resumeState p.state [w.body.line]
            else some w.body.line.state
          proc := some { p with
            shipped := putRecord p.shipped w.body.line
            state := if w.reshipped then resumeState p.state [w.body.line]
              else some w.body.line.state
            work := some { w with stage := .unlink } } } D := by
  have hr := h.running p hp
  have hwork := (hr.work w hw).stage
  simp only [hstage] at hwork
  obtain ⟨hlast, hne⟩ := hwork
  have hknown : p.known s.checkpoint = s.checkpoint.dropLast := by
    simp [CameraProc.known, hw, hstage]
  have hsplit : s.checkpoint.dropLast ++ [w.body.line] = s.checkpoint :=
    dropLast_append_getLast? _ hlast
  have hmem : w.body.line ∈ s.checkpoint := by rw [← hsplit]; simp
  have hnum : Numbered (s.checkpoint.dropLast ++ [w.body.line]) := by
    rw [hsplit]
    exact h.durable.numbered
  have hst := savedState hnum w.reshipped
  rw [hr.state, hknown, hst]
  refine ⟨h.durable.save hmem, fun p' hp' => ?_⟩
  cases hp'
  refine ⟨?_, ?_, ?_, hr.names, fun _ hw' => (nomatch hw'), fun _ _ b hb hs => absurd hs (hne b hb)⟩
  · change some w.body.line.state = tailState s.checkpoint
    rw [tailState, hlast]
    rfl
  · intro key
    change (shippedRecord (putRecord p.shipped w.body.line) key).isSome = true ↔
      key ∈ s.checkpoint.map (·.key)
    have := hr.shipped key
    rw [hknown, isSome_shippedRecord] at this
    rw [isSome_shippedRecord, mem_key_putRecord, this, ← hsplit]
    simp
  · intro w' hw'
    cases hw'
    exact ⟨(hr.work w hw).file, hmem, hne⟩

theorem CameraOk.unlinked (hstage : w.stage = .unlink) :
    CameraOk E
      { s with
          workdir := removeFile s.workdir w.name
          proc := some { p with
            mode := p.mode.handle w.name w.file none
            todo := p.todo.tail
            work := none } } D := by
  have hr := h.running p hp
  have hwork := (hr.work w hw).stage
  simp only [hstage] at hwork
  obtain ⟨hmem, hne⟩ := hwork
  obtain ⟨f, hf, hkey, -⟩ := (hr.work w hw).file
  have hlogged : E.fileKey f ∈ s.checkpoint.map (·.key) := by
    rw [hkey]
    exact mem_map.mpr ⟨_, hmem, rfl⟩
  have hknown := known_of_stage hw (by rw [hstage]; decide) s.checkpoint
  refine ⟨h.durable.setWorkdir fun b _ hb n hwait => hwait.removeFile hf (.inl hlogged) hb, ?_⟩
  intro p' hp'
  cases hp'
  refine ⟨?_, ?_, fun w hw => (nomatch hw), ?_, fun _ _ b hb hs => absurd hs (hne b hb),
    fun _ _ b hb hs => absurd hs (hne b hb)⟩
  · rw [hr.state, hknown]
    rfl
  · intro key
    have := hr.shipped key
    rwa [hknown] at this
  · exact fun name hname => hr.names name (mem_of_mem_tail hname)

end

/-! ## Whole runs -/

/-- What an act delivers. -/
def CameraAct.bodies : CameraAct σ → List (SegmentBody σ)
  | .delivered b => [b]
  | _ => []

theorem CameraOk.work (h : CameraOk E s D) (hp : s.proc = some p) (hw : p.work = some w)
    (delivery : Delivery) :
    CameraOk E (workStep s p w delivery).1 (D ++ (workStep s p w delivery).2.bodies) := by
  have hwork := ((h.running p hp).work w hw).stage
  unfold workStep
  split
  · rename_i hstage
    simp only [hstage] at hwork
    have hknown := known_of_stage hw (by rw [hstage]; decide) s.checkpoint
    split
    · exact h.shipped hp hw hstage
    rename_i reached
    cases reached with
    | true => exact (h.delivered hwork.1 hwork.2).refused hp hknown
    | false => simpa [bodies] using h.refused hp hknown
  · rename_i hstage
    simpa [bodies] using h.logged hp hw hstage
  · rename_i hstage
    simpa [bodies] using h.saved hp hw hstage
  · rename_i hstage
    have hdone := h.unlinked hp hw hstage
    cases fileAt s.workdir w.name with
    | some f => simpa [bodies] using hdone
    | none => simpa [bodies] using hdone

theorem CameraOk.act (h : CameraOk E s D) (hp : s.proc = some p) (sensor : σ) (delivery : Delivery)
    (hok : Orderly E s (.next sensor delivery)) :
    CameraOk E (actStep E s p sensor delivery).1
      (D ++ (actStep E s p sensor delivery).2.bodies) := by
  have hc := chooses_cameraAction E s p
  simp only [Orderly, CameraState.building, hp, Option.map_some, Option.bind_some] at hok
  unfold actStep
  generalize cameraAction E s p = action at hc hok
  cases hc with
  | wait => simpa [bodies] using h
  | stop => simpa [bodies] using h.down
  | goLive hw hm ht => simpa [bodies] using h.goLive hp hw hm ht _
  | skip loop loop' hw hm hgap => simpa [bodies] using h.skip hp hm hgap
  | settle name rest f hw ht hf hwhy =>
    simpa [bodies] using h.settle hp hw ht hf hwhy
  | build name rest f d hw ht hf hs hd hstaged =>
    dsimp only at hok ⊢
    split
    · simpa [bodies] using h.refused hp (known_of_work_none hw _)
    · have hstate : nextSeq p.state = s.checkpoint.length := by
        rw [(h.running p hp).state, known_of_work_none hw,
          nextSeq_tailState h.durable.numbered]
      simpa [bodies] using h.build hp hw ht hf hs hd fun b hb hseq =>
        h.liveBody_eq hp hw hstaged hb hseq (hok (f, d) rfl b hb (hseq.trans hstate.symm))
  | reship name rest f d b hw hm ht hf hs hd hb =>
    simpa [bodies] using h.reship hp hw hm hf hs hd hb
  | work w hw => exact h.work hp hw delivery

/-- One step of an orderly run. -/
theorem CameraOk.step (h : CameraOk E s D) {e : CameraEvent σ} (hok : Orderly E s e) :
    CameraOk E (cameraStep E s e).1 (D ++ (cameraStep E s e).2.bodies) := by
  cases e with
  | capture name file =>
    unfold cameraStep
    dsimp only
    split
    · simpa [bodies] using h
    · rename_i hopen
      simpa [bodies] using h.capture name file (by simpa using hopen)
  | start =>
    cases hp : s.proc with
    | some p => simpa [cameraStep, hp, bodies] using h
    | none =>
      have := h.start hp
      simpa [cameraStep, hp, bodies] using this
  | poll childDone =>
    have hnone : (cameraStep E s (.poll childDone)).2.bodies = [] := by
      unfold cameraStep
      dsimp only
      split
      · split
        · split <;> rfl
        · rfl
      · rfl
    rw [hnone, append_nil]
    exact h.poll childDone
  | next sensor delivery =>
    cases hp : s.proc with
    | none => simpa [cameraStep, hp, bodies] using h
    | some p =>
      simp only [cameraStep, hp]
      exact h.act hp sensor delivery hok
  | crash => simpa [cameraStep, bodies] using h.down

abbrev CameraPast (σ : Type) := List (CameraEvent σ × CameraAct σ)

/-- The bodies delivered in a run. -/
def deliveredBodies (past : CameraPast σ) : List (SegmentBody σ) := past.flatMap (·.2.bodies)

/-- A file is removed once its record is on the checkpoint, or as a partial. -/
theorem CameraOk.removed (h : CameraOk E s D) {e : CameraEvent σ}
    (hact : (cameraStep E s e).2 = .removed f) :
    (∃ b ∈ D, b.key = E.fileKey f) ∨ E.durationS f.data = none := by
  have hlogged : ∀ {key : SegmentKey}, key ∈ s.checkpoint.map (·.key) → ∃ b ∈ D, b.key = key := by
    intro key hkey
    obtain ⟨r, hr, rfl⟩ := mem_map.mp hkey
    obtain ⟨b, hb, rfl⟩ := h.durable.logged r hr
    exact ⟨b, hb, rfl⟩
  cases e with
  | capture name file =>
    unfold cameraStep at hact
    dsimp only at hact
    split at hact <;> exact nomatch hact
  | start =>
    unfold cameraStep at hact
    dsimp only at hact
    split at hact <;> exact nomatch hact
  | poll childDone =>
    unfold cameraStep at hact
    dsimp only at hact
    split at hact
    · split at hact
      · split at hact <;> exact nomatch hact
      · exact nomatch hact
    · exact nomatch hact
  | crash => exact nomatch hact
  | next sensor delivery =>
    cases hp : s.proc with
    | none =>
      simp only [cameraStep, hp] at hact
      exact nomatch hact
    | some p =>
      have hr := h.running p hp
      have hc := chooses_cameraAction E s p
      simp only [cameraStep, hp, actStep] at hact
      generalize cameraAction E s p = action at hc hact
      cases hc with
      | settle name rest g hw ht hg hwhy =>
        cases hact
        rw [hr.shipped, known_of_work_none hw] at hwhy
        exact hwhy.imp_left hlogged
      | build name rest g d =>
        dsimp only at hact
        split at hact <;> exact nomatch hact
      | work w hw =>
        have hwork := (hr.work w hw).stage
        obtain ⟨g, hg, hkey, -⟩ := (hr.work w hw).file
        dsimp only [workStep] at hact
        split at hact
        · split at hact
          · exact nomatch hact
          · split at hact <;> exact nomatch hact
        · exact nomatch hact
        · exact nomatch hact
        · rename_i hstage
          simp only [hstage] at hwork
          rw [hg] at hact
          cases hact
          exact .inl (hlogged (by rw [hkey]; exact mem_map.mpr ⟨_, hwork.1, rfl⟩))
      | _ => exact nomatch hact

/-- A delivered record names the hash of the record delivered with the preceding number. -/
theorem CameraOk.predecessor (h : CameraOk E s D) (hb : b ∈ D) :
    (b.segmentSeq = 0 ∧ b.prevSegmentSha256 = none) ∨
      ∃ a ∈ D, b.segmentSeq = a.segmentSeq + 1 ∧ b.prevSegmentSha256 = some a.segmentSha256 := by
  have hf := h.durable.follows b (.inr hb)
  unfold Follows at hf
  split at hf
  · rename_i hz
    exact .inl ⟨hz, hf⟩
  · rename_i i hi
    obtain ⟨r, hr, hp⟩ := hf
    obtain ⟨a, ha, rfl⟩ := h.durable.logged r (mem_of_getElem? hr)
    have hseq : a.segmentSeq = i := h.durable.numbered i _ hr
    exact .inr ⟨a, ha, by rw [hi, hseq], hp⟩

/-- Bodies delivered for one segment are the same. -/
theorem CameraOk.redelivered (h : CameraOk E s D) {a : SegmentBody σ} (ha : a ∈ D) (hb : b ∈ D)
    (hkey : a.key = b.key) : a = b := by
  -- a key on the checkpoint belongs to one line, and no other body is staged for it
  have hopen : ∀ {x y : SegmentBody σ}, x.line ∈ s.checkpoint → x.key = y.key →
      ¬ (y ∈ s.outbox ∧ y.segmentSeq = s.checkpoint.length) := by
    rintro x y hx hxy ⟨hy, hseq⟩
    exact (h.durable.waiting hy hseq).1 (mem_map.mpr ⟨_, hx, hxy⟩)
  rcases h.durable.shipped a ha with hla | hoa <;> rcases h.durable.shipped b hb with hlb | hob
  · have hline : a.line = b.line := inj_on_of_nodup_map h.durable.keys hla hlb hkey
    exact h.durable.same a ha b hb (congrArg CheckpointRecord.segmentSeq hline)
  · exact absurd hob (hopen hla hkey)
  · exact absurd hoa (hopen hlb hkey.symm)
  · exact h.durable.one a hoa.1 b hob.1 hoa.2 hob.2

/-- **Runs of the producer.**  In a run in which a body is built only while the bodies staged
under its number are of the same segment and verdict: records delivered with one number are the
same; each names the hash of the record delivered with the preceding number; a file is removed
only if a record was delivered for it or it is a partial; and records delivered for one file are
the same. -/
theorem camera_of_run (E : CameraEnv σ) (events : List (CameraEvent σ))
    (hok : Steps (cameraStep E) (Orderly E) .init events) :
    let s := final (cameraStep E) .init events
    let D := deliveredBodies (trace (cameraStep E) .init events)
    (∀ a ∈ D, ∀ b ∈ D, a.segmentSeq = b.segmentSeq → a = b) ∧
    (∀ b ∈ D, (b.segmentSeq = 0 ∧ b.prevSegmentSha256 = none) ∨
      ∃ a ∈ D, b.segmentSeq = a.segmentSeq + 1 ∧ b.prevSegmentSha256 = some a.segmentSha256) ∧
    (∀ e f, (cameraStep E s e).2 = .removed f →
      (∃ b ∈ D, b.key = E.fileKey f) ∨ E.durationS f.data = none) ∧
    (∀ a ∈ D, ∀ b ∈ D, a.key = b.key → a = b) := by
  intro s D
  have hrun : CameraOk E s D := by
    refine invariant_of_steps (I := fun s past => CameraOk E s (deliveredBodies past))
      ⟨Durable.init, fun p hp => nomatch hp⟩ (fun s past e h hok => ?_) hok
    have := h.step hok
    simpa [deliveredBodies] using this
  exact ⟨hrun.durable.same, fun b hb => hrun.predecessor hb, fun e f hact => hrun.removed hact,
    fun a ha b hb => hrun.redelivered ha hb⟩

/-! ## A camera -/

namespace CameraSample

/-- The validator says yes or no; every file that is not empty is a segment of one second. -/
def env : CameraEnv Bool where
  crypto := .known
    [(text "aaaa", text "61be55a8e2f6b4e172338bddf184d6dbee29c98853e0a0485ecee7f27b9af0b4"),
     (text "bbb", text "3e744b9dc39389baf0c5a0660589b8402f3dbb49b89b3e75f2c9355852a3c677")]
    [] [] []
  json := .plain
  key := ⟨[], "producer".toList⟩
  cameraId := "yard".toList
  device := "cam".toList
  capturePolicy := some (.dict [("nominal_segment_s".toList, .float (some 2)),
    ("jitter_s".toList, .float (some 1)), ("max_unexplained_gap_s".toList, .float (some 1))])
  sensorValue := .bool
  durationS data := if data = [] then none else some 1
  durationNs _ := 1000000000

def first : StoredFile := ⟨text "aaaa", 20000000000⟩

def second : StoredFile := ⟨text "bbb", 10000000000⟩

/-- The body of a segment without a predecessor. -/
def opening (f : StoredFile) (sensor : Bool) : SegmentBody Bool :=
  liveBody env none none f 1 sensor

/-- The first segment closes and is offered; the ship fails. -/
def failedOffer (reached : Bool) : List (CameraEvent Bool) :=
  [.start, .next true .accepted, .capture "seg_000000.mp4".toList first, .poll false,
   .next true .accepted, .poll false, .next true .accepted, .next true (.failed reached)]

/-- Five steps: build or find the body, ship, checkpoint, save, unlink. -/
def handOff (sensor : Bool) : List (CameraEvent Bool) := List.replicate 5 (.next sensor .accepted)

/-- The job arrives though its ship fails, the process is stopped and started, the staged body
is shipped, and another segment follows. -/
def restarted : List (CameraEvent Bool) :=
  failedOffer true ++ [.crash, .start] ++ handOff false ++
    [.next true .accepted, .capture "seg_000000.mp4".toList second, .poll true] ++ handOff true

/-- The same, but a segment with an earlier modification time closes in between. -/
def overtaken : List (CameraEvent Bool) :=
  failedOffer false ++ [.crash, .capture "seg_000001.mp4".toList second, .start] ++ handOff true ++
    handOff true

/-- The job arrives though its ship fails, and the validator says something else the next
time. -/
def revalidated : List (CameraEvent Bool) := failedOffer true ++ [.poll false] ++ handOff false

end CameraSample

open CameraSample

/-- The staged body is delivered twice, and the next record follows it. -/
theorem camera_of_run_restarted :
    let D := deliveredBodies (trace (cameraStep env) .init restarted)
    D.map (fun b => (b.segmentSeq, b.key)) =
      [(0, env.fileKey first), (0, env.fileKey first), (1, env.fileKey second)] ∧
    (∀ a ∈ D, ∀ b ∈ D, a.segmentSeq = b.segmentSeq → a = b) ∧
    ∀ a ∈ D, ∀ b ∈ D, a.key = b.key → a = b := by
  have hrun := camera_of_run env restarted (by decide +kernel)
  exact ⟨by decide +kernel, hrun.1, hrun.2.2.2⟩

/-- Two segments get one number when a staged one is overtaken, and one segment gets two bodies
when the validator is asked again. -/
theorem one_number_for_two_bodies :
    (let a := opening first true
     let b := opening second true
     deliveredBodies (trace (cameraStep env) .init overtaken) = [b, a] ∧
       a.segmentSeq = b.segmentSeq ∧ env.bytes a ≠ env.bytes b) ∧
    (let a := opening first true
     let b := opening first false
     deliveredBodies (trace (cameraStep env) .init revalidated) = [a, b] ∧
       a.segmentSeq = b.segmentSeq ∧ a.key = b.key ∧ env.bytes a ≠ env.bytes b) := by
  decide +kernel

end Virp
