import Mathlib.Logic.Relation
import Virp.LinuxGate

/-! # Disguises of a command that is never run

The scan for commands that are never run reads words, segment by segment.  Its verdict cannot be
shaken off by spelling the command differently: the scan is a run of a small machine over the words,
a quoting byte or a directory leaves what the machine learns from a word as it is, and more words of
a segment only raise its flags.
-/
namespace Virp

open List

/-- A word as the shell passes it on. -/
def unquoted (t : Bytes) : Bytes := t.filter (fun c => !isShellQuote c)

theorem blackWordEq_iff (t word : Bytes) : blackWordEq t word = true ↔ unquoted t = word := by
  induction t generalizing word with
  | nil =>
    rw [blackWordEq, List.isEmpty_iff]
    exact eq_comm
  | cons c t ih =>
    unfold blackWordEq
    by_cases hq : isShellQuote c = true
    · simpa [unquoted, hq] using ih word
    cases word with
    | nil => simp [unquoted, hq]
    | cons w word =>
      simp only [hq, Bool.false_eq_true, if_false, unquoted, Bool.not_false, List.filter_cons_of_pos,
        cons.injEq]
      split
      · simp [unquoted, *]
      · simp [*]

variable {t t' pre rest gap : Bytes} {q : UInt8} {s s' : BlackSeg}

theorem blackWordEq_congr (h : unquoted t = unquoted t') (word : Bytes) :
    blackWordEq t word = blackWordEq t' word := by
  rw [Bool.eq_iff_iff, blackWordEq_iff, blackWordEq_iff, h]

theorem blackWordIn_congr (h : unquoted t = unquoted t') (set : List Bytes) :
    blackWordIn t set = blackWordIn t' set := by
  unfold blackWordIn
  exact congrArg set.any (funext (blackWordEq_congr h))

theorem namesVirpLoop_unquoted (t wanted : Bytes) :
    namesVirpLoop wanted t = namesVirpLoop wanted (unquoted t) := by
  induction t generalizing wanted with
  | nil => rfl
  | cons c t ih =>
    by_cases hq : isShellQuote c = true
    · rw [namesVirpLoop.eq_def]
      simpa [unquoted, hq] using ih wanted
    · have hu : unquoted (c :: t) = c :: unquoted t := by simp [unquoted, hq]
      rw [hu]
      cases wanted with
      | nil => simp [namesVirpLoop, hq]
      | cons w more => simp only [namesVirpLoop, hq, ih]

theorem tokNamesVirp_congr (h : unquoted t = unquoted t') : tokNamesVirp t = tokNamesVirp t' := by
  unfold tokNamesVirp
  rw [namesVirpLoop_unquoted t, namesVirpLoop_unquoted t', h]

theorem unquoted_quote (hq : isShellQuote q = true) (u v : Bytes) :
    unquoted (u ++ q :: v) = unquoted (u ++ v) := by
  simp [unquoted, hq]

theorem basenameLoop_eq (t out : Bytes) :
    basenameLoop t out = if 0x2F ∈ t then basenameLoop t [] else out := by
  induction t generalizing out with
  | nil => rfl
  | cons c t ih =>
    by_cases hc : c = 0x2F
    · simp [basenameLoop, hc]
    · rw [basenameLoop, if_neg hc, ih out, basenameLoop, if_neg hc]
      simp [Ne.symm hc]

theorem basename_slash (d z : Bytes) : linuxTokBasename (d ++ 0x2F :: z) = linuxTokBasename z := by
  unfold linuxTokBasename
  suffices H : ∀ d out : Bytes, basenameLoop (d ++ 0x2F :: z) out = basenameLoop z z from H d _
  intro d
  induction d with
  | nil => simp [basenameLoop]
  | cons c d ih =>
    intro out
    rw [cons_append, basenameLoop]
    split <;> exact ih _

theorem basename_of_notMem {z : Bytes} (h : 0x2F ∉ z) : linuxTokBasename z = z := by
  unfold linuxTokBasename
  rw [basenameLoop_eq, if_neg h]

theorem exists_last_slash (h : 0x2F ∈ t) : ∃ d z : Bytes, t = d ++ 0x2F :: z ∧ 0x2F ∉ z := by
  induction t with
  | nil => simp at h
  | cons c t ih =>
    by_cases ht : 0x2F ∈ t
    · obtain ⟨d, z, rfl, hz⟩ := ih ht
      exact ⟨c :: d, z, rfl, hz⟩
    · have hc : c = 0x2F := by simpa [ht, eq_comm] using h
      exact ⟨[], t, by rw [hc, nil_append], ht⟩

/-- A quoting byte is no slash, so the last part of the path is quoted in the same way. -/
theorem unquoted_basename_quote (hq : isShellQuote q = true) (u v : Bytes) :
    unquoted (linuxTokBasename (u ++ q :: v)) = unquoted (linuxTokBasename (u ++ v)) := by
  have hne : q ≠ 0x2F := by rintro rfl; exact absurd hq (by decide)
  by_cases hv : 0x2F ∈ v
  · obtain ⟨d, z, rfl, -⟩ := exists_last_slash hv
    rw [← cons_append, ← append_assoc, ← append_assoc, basename_slash, basename_slash]
  by_cases hu : 0x2F ∈ u
  · obtain ⟨d, z, rfl, hz⟩ := exists_last_slash hu
    rw [append_assoc, append_assoc, cons_append, cons_append, basename_slash,
      basename_slash, basename_of_notMem (by simp [hz, hv, hne.symm]),
      basename_of_notMem (by simp [hz, hv]), unquoted_quote hq]
  · rw [basename_of_notMem (by simp [hu, hv, hne.symm]), basename_of_notMem (by simp [hu, hv]),
      unquoted_quote hq]

theorem BlackSeg.token_quote (hq : isShellQuote q = true) (s : BlackSeg) (u v : Bytes) :
    s.token (u ++ q :: v) = s.token (u ++ v) := by
  have hword := unquoted_quote hq u v
  have hbase := unquoted_basename_quote hq u v
  simp only [BlackSeg.token, blackWordIn_congr hword, tokNamesVirp_congr hword,
    blackWordIn_congr hbase, blackWordEq_congr hbase]

theorem BlackSeg.token_path (hs : s.haveCmd = false) (dir w : Bytes) :
    s.token (dir ++ 0x2F :: w) = s.token w := by
  simp only [BlackSeg.token, hs, basename_slash, Bool.false_eq_true, if_false]

/-- The same command, with at least the flags of `s` raised. -/
structure BlackSeg.Below (s s' : BlackSeg) : Prop where
  haveCmd : s'.haveCmd = s.haveCmd
  haltCmd : s'.haltCmd = s.haltCmd
  isSystemctl : s'.isSystemctl = s.isSystemctl
  isKiller : s'.isKiller = s.isKiller
  systemctlHostVerb : s.systemctlHostVerb = true → s'.systemctlHostVerb = true
  takedownVerb : s.takedownVerb = true → s'.takedownVerb = true
  namesVirp : s.namesVirp = true → s'.namesVirp = true

theorem BlackSeg.Below.token (h : s.Below s') (t : Bytes) : (s.token t).Below (s'.token t) := by
  unfold BlackSeg.token
  rw [h.haveCmd]
  split
  · refine ⟨rfl, h.haltCmd, h.isSystemctl, h.isKiller, ?_, ?_, ?_⟩
    · simp only [h.isSystemctl, Bool.or_eq_true]
      exact Or.imp_left h.systemctlHostVerb
    · simp only [h.isSystemctl, Bool.or_eq_true]
      exact Or.imp_left h.takedownVerb
    · simp only [Bool.or_eq_true]
      exact Or.imp_left h.namesVirp
  · exact ⟨rfl, rfl, rfl, rfl, h.systemctlHostVerb, h.takedownVerb, h.namesVirp⟩

/-- A further argument raises flags only. -/
theorem BlackSeg.below_token (hs : s.haveCmd = true) (t : Bytes) : s.Below (s.token t) := by
  simp only [BlackSeg.token, hs, if_true]
  refine ⟨hs.symm, rfl, rfl, rfl, ?_, ?_, ?_⟩
  · exact fun h => by simp [h]
  · exact fun h => by simp [h]
  · exact fun h => by simp [h]

theorem BlackSeg.Below.verdict (h : s.Below s') (hv : s.verdict = true) : s'.verdict = true := by
  simp only [BlackSeg.verdict, Bool.and_eq_true, Bool.or_eq_true, h.haveCmd, h.haltCmd,
    h.isSystemctl, h.isKiller] at hv ⊢
  refine hv.imp_right (Or.imp (Or.imp (Or.imp_right ?_) ?_) ?_)
  · exact And.imp_right h.systemctlHostVerb
  · exact And.imp (And.imp_right h.takedownVerb) h.namesVirp
  · exact And.imp_right h.namesVirp

/-! ## The scan as a run over the bytes -/

/-- The segment that the scan holds after `raw`, or none once a segment was BLACK. -/
def blackAfter (seg : BlackSeg) (raw : Bytes) : Option BlackSeg :=
  match raw with
  | [] => some seg
  | c :: s =>
    if isSegmentEnd c then if seg.verdict then none else blackAfter .reset s
    else if isShellSpace c then blackAfter seg s
    else blackAfter (seg.token (c :: s.takeWhile isBlackWord)) (s.dropWhile isBlackWord)
termination_by raw.length
decreasing_by
  · simp
  · simp
  · have := (List.dropWhile_suffix (l := s) isBlackWord).length_le
    simp only [List.length_cons]
    omega

theorem blackLoop_eq (seg : BlackSeg) (raw : Bytes) :
    blackLoop seg raw = (blackAfter seg raw).all BlackSeg.verdict := by
  fun_induction blackAfter seg raw with
  | case1 seg => rw [blackLoop]; rfl
  | case2 seg c s hc hv => rw [blackLoop, if_pos hc, if_pos hv]; rfl
  | case3 seg c s hc hv ih => rw [blackLoop, if_pos hc, if_neg hv, ih]
  | case4 seg c s hc hs ih => rw [blackLoop, if_neg hc, if_pos hs, ih]
  | case5 seg c s hc hs ih => rw [blackLoop, if_neg hc, if_neg hs, ih]

/-- No word goes across from `pre` to `rest`. -/
def WordBreak (pre rest : Bytes) : Prop :=
  (∀ c ∈ pre.getLast?, isBlackWord c = false) ∨ ∀ c ∈ rest.head?, isBlackWord c = false

theorem WordBreak.suffix {suf : Bytes} (h : WordBreak pre rest) (hs : suf <:+ pre) :
    WordBreak suf rest := by
  obtain ⟨t, rfl⟩ := hs
  refine h.imp_left fun h d hd => h d ?_
  rw [getLast?_append, Option.mem_def.mp hd]
  rfl

theorem takeWhile_wordBreak (hall : pre.all isBlackWord = true)
    (h : ∀ c ∈ rest.head?, isBlackWord c = false) :
    (pre ++ rest).takeWhile isBlackWord = pre ∧ (pre ++ rest).dropWhile isBlackWord = rest := by
  have hrest : rest.takeWhile isBlackWord = [] ∧ rest.dropWhile isBlackWord = rest := by
    cases rest with
    | nil => exact ⟨rfl, rfl⟩
    | cons c rest => simp [h c rfl]
  rw [all_eq_true] at hall
  rw [takeWhile_append_of_pos hall, dropWhile_append_of_pos hall, hrest.1, hrest.2]
  exact ⟨append_nil _, rfl⟩

variable {c sep : UInt8} {w : Bytes}

theorem isBlackWord_eq_false :
    isBlackWord c = false ↔ isShellSpace c = true ∨ isSegmentEnd c = true := by
  simp [isBlackWord]
  grind

theorem isBlackWord_of_quote (h : isShellQuote q = true) : isBlackWord q = true := by
  simp only [isShellQuote, Bool.or_eq_true, beq_iff_eq] at h
  rcases h with (rfl | rfl) | rfl <;> decide

theorem blackAfter_word (hne : w ≠ []) (hw : w.all isBlackWord = true)
    (h : ∀ c ∈ rest.head?, isBlackWord c = false) (seg : BlackSeg) :
    blackAfter seg (w ++ rest) = blackAfter (seg.token w) rest := by
  obtain ⟨c, t, rfl⟩ := exists_cons_of_ne_nil hne
  obtain ⟨hc, ht⟩ : isBlackWord c = true ∧ t.all isBlackWord = true := by simpa using hw
  obtain ⟨htake, hdrop⟩ := takeWhile_wordBreak ht h
  have hend : isSegmentEnd c = false ∧ isShellSpace c = false := by
    simpa [isBlackWord, and_comm] using hc
  rw [cons_append, blackAfter, hend.1, hend.2, htake, hdrop]
  rfl

/-- The scan of a text goes on from the scan of its beginning, where no word goes across. -/
theorem blackAfter_append (h : WordBreak pre rest) (seg : BlackSeg) :
    blackAfter seg (pre ++ rest) = (blackAfter seg pre).bind (blackAfter · rest) := by
  fun_induction blackAfter seg pre with
  | case1 seg => rfl
  | case2 seg c s hc hv => rw [cons_append, blackAfter, if_pos hc, if_pos hv]; rfl
  | case3 seg c s hc hv ih =>
    rw [cons_append, blackAfter, if_pos hc, if_neg hv]
    exact ih (h.suffix (suffix_cons c s))
  | case4 seg c s hc hs ih =>
    rw [cons_append, blackAfter, if_neg hc, if_pos hs]
    exact ih (h.suffix (suffix_cons c s))
  | case5 seg c s hc hs ih =>
    have hcut := (dropWhile_suffix (l := s) isBlackWord).trans (suffix_cons c s)
    rw [cons_append, blackAfter, if_neg hc, if_neg hs, ← ih (h.suffix hcut)]
    by_cases hall : s.all isBlackWord = true
    -- the word reaches the end of `pre`, so it stops there
    · have hrest : ∀ c ∈ rest.head?, isBlackWord c = false := by
        refine h.resolve_left fun hlast => ?_
        obtain ⟨d, hd⟩ : ∃ d, (c :: s).getLast? = some d := by simp [getLast?_cons]
        have hword : isBlackWord d = true := by
          rcases mem_cons.mp (mem_of_getLast? hd) with rfl | hds
          · simp [isBlackWord, hc, hs]
          · exact all_eq_true.mp hall d hds
        rw [hlast d hd] at hword
        exact absurd hword (by decide)
      obtain ⟨htake, hdrop⟩ := takeWhile_wordBreak hall hrest
      obtain ⟨htake', hdrop'⟩ := @takeWhile_wordBreak s [] hall (by simp)
      rw [append_nil] at htake' hdrop'
      rw [htake, hdrop, htake', hdrop', nil_append]
    · have hne : s.dropWhile isBlackWord ≠ [] := by
        rw [Ne, dropWhile_eq_nil_iff]
        simpa using hall
      have hsplit : s ++ rest
          = s.takeWhile isBlackWord ++ (s.dropWhile isBlackWord ++ rest) := by
        rw [← append_assoc, takeWhile_append_dropWhile]
      have hhead : ∀ c ∈ (s.dropWhile isBlackWord ++ rest).head?, isBlackWord c = false := by
        intro d hd
        rw [head?_append_of_ne_nil _ hne] at hd
        have := head_dropWhile_not isBlackWord hne
        rw [head?_eq_some_head hne, Option.mem_some_iff] at hd
        rwa [hd] at this
      have hword : (s.takeWhile isBlackWord).all isBlackWord = true :=
        all_eq_true.mpr fun d hd => mem_takeWhile_imp hd
      obtain ⟨htake, hdrop⟩ := takeWhile_wordBreak hword hhead
      rw [← hsplit] at htake hdrop
      rw [htake, hdrop]

/-- More flags at the start are more flags throughout. -/
theorem blackLoop_below (h : s.Below s') (raw : Bytes) (hb : blackLoop s raw = true) :
    blackLoop s' raw = true := by
  fun_induction blackLoop s raw generalizing s' with
  | case1 s =>
    rw [blackLoop]
    exact h.verdict hb
  | case2 s c t hc hv => rw [blackLoop, if_pos hc, if_pos (h.verdict hv)]
  | case3 s c t hc hv ih =>
    rw [blackLoop, if_pos hc]
    split
    · rfl
    · exact hb
  | case4 s c t hc hs ih =>
    rw [blackLoop, if_neg hc, if_pos hs]
    exact ih h hb
  | case5 s c t hc hs ih =>
    rw [blackLoop, if_neg hc, if_neg hs]
    exact ih (h.token _) hb

/-- The scan is BLACK already, or goes on from the segment it holds. -/
theorem blackLoop_append (h : WordBreak pre rest) (seg : BlackSeg) :
    blackLoop seg (pre ++ rest) = (blackAfter seg pre).all (blackLoop · rest) := by
  rw [blackLoop_eq, blackAfter_append h]
  cases blackAfter seg pre with
  | none => rfl
  | some s => simp [blackLoop_eq]

theorem blackLoop_word (hne : w ≠ []) (hw : w.all isBlackWord = true)
    (h : ∀ c ∈ rest.head?, isBlackWord c = false) (seg : BlackSeg) :
    blackLoop seg (w ++ rest) = blackLoop (seg.token w) rest := by
  rw [blackLoop_eq, blackAfter_word hne hw h, ← blackLoop_eq]

theorem blackLoop_blank (hgap : gap.all isShellSpace = true) (seg : BlackSeg) (rest : Bytes) :
    blackLoop seg (gap ++ rest) = blackLoop seg rest := by
  induction gap with
  | nil => rfl
  | cons c gap ih =>
    obtain ⟨hc, hg⟩ : isShellSpace c = true ∧ gap.all isShellSpace = true := by simpa using hgap
    have hend : isSegmentEnd c = false := by
      revert hc
      simp only [isShellSpace, isSegmentEnd]
      grind
    rw [cons_append, blackLoop, hend, hc]
    exact ih hg

/-! ## Disguises -/

/-- A whole word of a command, between `pre` and `post`. -/
structure Stands (pre w post : Bytes) : Prop where
  ne_nil : w ≠ []
  word : w.all isBlackWord = true
  left : ∀ c ∈ pre.getLast?, isBlackWord c = false
  right : ∀ c ∈ post.head?, isBlackWord c = false

/-- White space of at least one byte. -/
def Blank (gap : Bytes) : Prop := gap ≠ [] ∧ gap.all isShellSpace = true

/-- What stands in the segment that `pre` ends in. -/
def lastSegment (pre : Bytes) : Bytes := pre.rtakeWhile (fun c => !isSegmentEnd c)

/-- One way to spell a command differently, or to hide it among other text. -/
inductive Disguise : Bytes → Bytes → Prop
  /-- A quoting byte anywhere in a word. -/
  | quote {pre u v post : Bytes} {q : UInt8} (at_word : Stands pre (u ++ v) post)
      (hq : isShellQuote q = true) :
      Disguise (pre ++ ((u ++ v) ++ post)) (pre ++ ((u ++ q :: v) ++ post))
  /-- More, or other, white space. -/
  | widen {pre gap gap' post : Bytes} (hgap : Blank gap) (hgap' : Blank gap') :
      Disguise (pre ++ (gap ++ post)) (pre ++ (gap' ++ post))
  /-- A directory in front of the first word of a segment. -/
  | path {pre w post dir : Bytes} (at_word : Stands pre w post)
      (first : (lastSegment pre).all isShellSpace = true) (hdir : dir.all isBlackWord = true) :
      Disguise (pre ++ (w ++ post)) (pre ++ ((dir ++ 0x2F :: w) ++ post))
  /-- A further argument of a command. -/
  | argument {pre gap arg post : Bytes} (command : (lastSegment pre).any isBlackWord = true)
      (hgap : Blank gap) (hne : arg ≠ []) (harg : arg.all isBlackWord = true)
      (right : ∀ c ∈ post.head?, isBlackWord c = false) :
      Disguise (pre ++ post) (pre ++ (gap ++ (arg ++ post)))
  /-- A segment before the command. -/
  | before {c other : Bytes} {sep : UInt8} (hsep : isSegmentEnd sep = true) :
      Disguise c (other ++ sep :: c)
  /-- A segment behind it. -/
  | after {c other : Bytes} {sep : UInt8} (hsep : isSegmentEnd sep = true) :
      Disguise c (c ++ sep :: other)

theorem isBlackWord_of_segmentEnd (h : isSegmentEnd c = true) : isBlackWord c = false :=
  isBlackWord_eq_false.mpr (.inr h)

/-- Behind a separator the scan starts over. -/
theorem blackAfter_segmentEnd (hsep : isSegmentEnd sep = true) (pre : Bytes) (seg : BlackSeg) :
    ∀ s ∈ blackAfter seg (pre ++ [sep]), s = .reset := by
  intro s hs
  have hbreak : WordBreak pre [sep] := .inr (by simpa using isBlackWord_of_segmentEnd hsep)
  rw [blackAfter_append hbreak] at hs
  obtain ⟨s', -, hs'⟩ := Option.mem_bind_iff.mp hs
  rw [blackAfter, if_pos hsep] at hs'
  split at hs'
  · simp at hs'
  · simpa [blackAfter, eq_comm] using hs'

/-- Within a segment, a word is what makes a command. -/
theorem blackAfter_segment (hpre : ∀ c ∈ pre, isSegmentEnd c = false) (seg : BlackSeg) :
    ∀ s ∈ blackAfter seg pre, s.haveCmd = (seg.haveCmd || pre.any isBlackWord) := by
  fun_induction blackAfter seg pre with
  | case1 seg => simp
  | case2 seg c t hc hv => simp [hpre c] at hc
  | case3 seg c t hc hv ih => simp [hpre c] at hc
  | case4 seg c t hc hs ih =>
    have hw : isBlackWord c = false := isBlackWord_eq_false.mpr (.inl hs)
    simpa [hw] using ih fun d hd => hpre d (mem_cons_of_mem c hd)
  | case5 seg c t hc hs ih =>
    intro s h
    have hw : isBlackWord c = true := by simp [isBlackWord, hc, hs]
    have hrest := ih (fun d hd => hpre d (mem_cons_of_mem c (dropWhile_subset _ hd))) s h
    have hcmd : ∀ w, (seg.token w).haveCmd = true := by
      intro w
      unfold BlackSeg.token
      split <;> simp [*]
    simp [hrest, hcmd, hw]

theorem blackAfter_haveCmd (pre : Bytes) :
    ∀ s ∈ blackAfter .reset pre, s.haveCmd = (lastSegment pre).any isBlackWord := by
  intro s hs
  have hsplit : pre.rdropWhile (fun c => !isSegmentEnd c) ++ lastSegment pre = pre :=
    rdropWhile_append_rtakeWhile
  have hsegment : ∀ c ∈ lastSegment pre, isSegmentEnd c = false := by
    intro c hc
    simpa using mem_rtakeWhile_imp hc
  rcases eq_nil_or_concat (pre.rdropWhile (fun c => !isSegmentEnd c)) with hnil | ⟨a, sep, ha⟩
  · rw [hnil, nil_append] at hsplit
    rw [← hsplit] at hs
    exact blackAfter_segment hsegment _ s hs
  have hsep : isSegmentEnd sep = true := by
    have := rdropWhile_last_not (fun c => !isSegmentEnd c) pre (by simp [ha])
    simpa [ha] using this
  have hbreak : WordBreak (a ++ [sep]) (lastSegment pre) :=
    .inl (by simpa using isBlackWord_of_segmentEnd hsep)
  rw [← hsplit, ha, concat_eq_append, blackAfter_append hbreak] at hs
  obtain ⟨s', hs', hs⟩ := Option.mem_bind_iff.mp hs
  obtain rfl := blackAfter_segmentEnd hsep a _ s' hs'
  exact blackAfter_segment hsegment _ s hs

theorem any_isBlackWord_of_blank (h : gap.all isShellSpace = true) :
    gap.any isBlackWord = false := by
  rw [any_eq_false]
  intro c hc
  simp [isBlackWord, all_eq_true.mp h c hc]

theorem blackAfter_all_mono {P Q : BlackSeg → Bool}
    (h : ∀ s ∈ blackAfter .reset pre, P s = true → Q s = true)
    (hb : (blackAfter .reset pre).all P = true) : (blackAfter .reset pre).all Q = true := by
  cases hs : blackAfter .reset pre with
  | none => rfl
  | some s =>
    rw [hs] at hb
    exact h s hs hb

theorem Blank.break_left (h : Blank gap) {post : Bytes} : WordBreak pre (gap ++ post) := by
  refine .inr fun c hc => ?_
  rw [head?_append_of_ne_nil _ h.1] at hc
  exact isBlackWord_eq_false.mpr (.inl (all_eq_true.mp h.2 c (mem_of_mem_head? hc)))

/-- Two segments are judged one by one. -/
theorem blackLoop_segmentEnd (hsep : isSegmentEnd sep = true) (a b : Bytes) (seg : BlackSeg) :
    blackLoop seg (a ++ sep :: b) = (blackLoop seg a || blackLoop .reset b) := by
  have hbreak : WordBreak a (sep :: b) := .inr (by simpa using isBlackWord_of_segmentEnd hsep)
  rw [blackLoop_append hbreak, blackLoop_eq seg a]
  cases blackAfter seg a with
  | none => rfl
  | some s =>
    rw [Option.all_some, Option.all_some, blackLoop, if_pos hsep]
    cases s.verdict <;> rfl

/-- One disguise leaves a BLACK command BLACK. -/
theorem Disguise.blackSelfHarm {c c' : Bytes} (h : Disguise c c') (hb : linuxBlackSelfHarm c = true) :
    linuxBlackSelfHarm c' = true := by
  unfold linuxBlackSelfHarm at hb ⊢
  cases h with
  | quote at_word hq =>
    rename_i pre u v post q
    have hword : (u ++ q :: v).all isBlackWord = true := by
      simpa [isBlackWord_of_quote hq] using at_word.word
    rw [blackLoop_append (.inl at_word.left)] at hb ⊢
    refine blackAfter_all_mono (fun s _ hs => ?_) hb
    rw [blackLoop_word at_word.ne_nil at_word.word at_word.right] at hs
    rwa [blackLoop_word (by simp) hword at_word.right, BlackSeg.token_quote hq]
  | widen hgap hgap' =>
    rename_i pre gap gap' post
    rw [blackLoop_append hgap.break_left] at hb
    rw [blackLoop_append hgap'.break_left]
    refine blackAfter_all_mono (fun s _ hs => ?_) hb
    rw [blackLoop_blank hgap.2] at hs
    rwa [blackLoop_blank hgap'.2]
  | path at_word first hdir =>
    rename_i pre w post dir
    have hword : (dir ++ 0x2F :: w).all isBlackWord = true := by
      have hslash : isBlackWord 0x2F = true := by decide
      simpa [hdir, hslash] using at_word.word
    rw [blackLoop_append (.inl at_word.left)] at hb ⊢
    refine blackAfter_all_mono (fun s hs₀ hs => ?_) hb
    rw [blackLoop_word at_word.ne_nil at_word.word at_word.right] at hs
    have hcmd : s.haveCmd = false := by
      rw [blackAfter_haveCmd pre s hs₀, any_isBlackWord_of_blank first]
    rwa [blackLoop_word (by simp) hword at_word.right, BlackSeg.token_path hcmd]
  | argument command hgap hne harg right =>
    rename_i pre gap arg post
    rw [blackLoop_append (.inr right)] at hb
    rw [blackLoop_append hgap.break_left]
    refine blackAfter_all_mono (fun s hs₀ hs => ?_) hb
    rw [blackLoop_blank hgap.2, blackLoop_word hne harg right]
    have hcmd : s.haveCmd = true := by rw [blackAfter_haveCmd pre s hs₀, command]
    exact blackLoop_below (BlackSeg.below_token hcmd arg) post hs
  | before hsep =>
    rename_i other sep
    rw [blackLoop_segmentEnd hsep, hb, Bool.or_true]
  | after hsep =>
    rename_i other sep
    rw [blackLoop_segmentEnd hsep, hb, Bool.true_or]

/-- **No disguise makes a command that is never run look like another one.** -/
theorem never_survives_disguise (G : GuestSet) {c c' : Bytes}
    (h : Relation.ReflTransGen Disguise c c') (hb : linuxBlackSelfHarm c = true) :
    linuxBlackSelfHarm c' = true ∧ linuxGateTier G c' = .black := by
  have hb' : linuxBlackSelfHarm c' = true := by
    induction h with
    | refl => exact hb
    | tail _ hstep ih => exact hstep.blackSelfHarm ih
  exact ⟨hb', by rw [linuxGateTier, if_pos hb']⟩

theorem never_survives_disguise_reboot :
    linuxGateTier ⟨false, []⟩ (text "/sbin/re\"boot -f; ls") = .black := by
  have quoted : Disguise (text "reboot") (text "re\"boot") :=
    @Disguise.quote [] (text "re") (text "boot") [] 0x22
      ⟨by decide +kernel, by decide +kernel, by decide +kernel, by decide +kernel⟩
      (by decide +kernel)
  have placed : Disguise (text "re\"boot") (text "/sbin/re\"boot") :=
    @Disguise.path [] (text "re\"boot") [] (text "/sbin")
      ⟨by decide +kernel, by decide +kernel, by decide +kernel, by decide +kernel⟩
      (by decide +kernel) (by decide +kernel)
  have argued : Disguise (text "/sbin/re\"boot") (text "/sbin/re\"boot -f") :=
    @Disguise.argument (text "/sbin/re\"boot") (text " ") (text "-f") []
      (by decide +kernel) ⟨by decide +kernel, by decide +kernel⟩ (by decide +kernel)
      (by decide +kernel) (by decide +kernel)
  have followed : Disguise (text "/sbin/re\"boot -f") (text "/sbin/re\"boot -f; ls") :=
    @Disguise.after _ (text " ls") 0x3B (by decide +kernel)
  exact (never_survives_disguise _ (((Relation.ReflTransGen.single quoted).tail placed).tail
    argued |>.tail followed) (by decide +kernel)).2

end Virp
