import Mathlib.Data.List.DropRight
import Mathlib.Data.List.Basic

/-! # The words of a text

The maximal runs of a list that are free of a delimiter, and the text that has the same words
with single delimiters between them.
-/
namespace Virp.Words

open List

variable {α : Type*} [DecidableEq α] {d : α}

/-- The runs between delimiters that are not empty. -/
def words (d : α) (l : List α) : List (List α) := (l.splitOn d).filter (· ≠ [])

/-- The words of a text with one delimiter between any two. -/
def squeeze (d : α) (l : List α) : List α := [d].intercalate (words d l)

variable {w : List α}

theorem words_of_notMem (h : d ∉ w) : words d w = if w = [] then [] else [w] := by
  rw [words, splitOn_eq_singleton h]
  by_cases hw : w = [] <;> simp [hw]

theorem words_append_cons (h : d ∉ w) (l : List α) :
    words d (w ++ d :: l) = (if w = [] then [] else [w]) ++ words d l := by
  rw [words, splitOn_append_cons_self_of_not_mem h]
  by_cases hw : w = [] <;> simp [hw, words]

theorem words_cons_delimiter (l : List α) : words d (d :: l) = words d l := by
  simpa using words_append_cons (w := []) not_mem_nil l

/-- No word is empty, and none holds the delimiter. -/
theorem mem_words {l : List α} (hw : w ∈ words d l) : w ≠ [] ∧ d ∉ w := by
  induction hn : l.length using Nat.strong_induction_on generalizing l with
  | _ n ih =>
    by_cases hd : d ∈ l
    · obtain ⟨v, rest, rfl, hv⟩ := eq_append_cons_of_mem hd
      rw [words_append_cons hv, mem_append] at hw
      rcases hw with hw | hw
      · split at hw
        · cases hw
        rw [mem_singleton.mp hw]
        exact ⟨by assumption, hv⟩
      · exact ih rest.length (by simp at hn; omega) hw rfl
    · rw [words_of_notMem hd] at hw
      split at hw
      · cases hw
      rw [mem_singleton.mp hw]
      exact ⟨by assumption, hd⟩

variable {ws : List (List α)}

/-- Words that were put together are found again. -/
theorem words_intercalate (h : ∀ w ∈ ws, w ≠ [] ∧ d ∉ w) :
    words d ([d].intercalate ws) = ws := by
  rcases eq_or_ne ws [] with rfl | hne
  · simp [words]
  · rw [words, splitOn_intercalate d (fun w hw => (h w hw).2) hne]
    exact filter_eq_self.mpr (fun w hw => by simpa using (h w hw).1)

theorem words_squeeze (l : List α) : words d (squeeze d l) = words d l :=
  words_intercalate (fun _ => mem_words)

/-- **Squeezed texts are the same exactly if the words are.** -/
theorem squeeze_eq_iff {a b : List α} : squeeze d a = squeeze d b ↔ words d a = words d b := by
  refine ⟨fun h => ?_, fun h => congrArg ([d].intercalate ·) h⟩
  rw [← words_squeeze a, ← words_squeeze b, h]

theorem squeeze_squeeze (l : List α) : squeeze d (squeeze d l) = squeeze d l :=
  squeeze_eq_iff.mpr (words_squeeze l)

theorem squeeze_dropWhile (l : List α) : squeeze d (l.dropWhile (· == d)) = squeeze d l := by
  induction l with
  | nil => rfl
  | cons c l ih =>
    by_cases hc : c = d
    · subst hc
      rw [dropWhile_cons_of_pos (by simp), ih, squeeze, squeeze, words_cons_delimiter]
    · rw [dropWhile_cons_of_neg (by simp [hc])]

omit [DecidableEq α] in
theorem mem_intercalate {x : α} (hx : x ≠ d) (ws : List (List α)) :
    x ∈ [d].intercalate ws ↔ ∃ w ∈ ws, x ∈ w := by
  induction ws with
  | nil => simp
  | cons w ws ih =>
    rcases eq_or_ne ws [] with rfl | hne
    · simp
    · simp [intercalate_cons_of_ne_nil hne, ih, hx]

/-- Squeezing adds and drops delimiters only. -/
theorem mem_squeeze_iff {x : α} (hx : x ≠ d) {l : List α} : x ∈ squeeze d l ↔ x ∈ l := by
  have hl : x ∈ [d].intercalate (l.splitOn d) ↔ x ∈ l := by rw [intercalate_splitOn]
  rw [← hl, squeeze, mem_intercalate hx, mem_intercalate hx]
  refine exists_congr fun w => and_congr_left fun hxw => ?_
  simp [words, ne_nil_of_mem hxw]

/-! ## Writing the words out one by one -/

/-- Every word with the delimiter behind it. -/
def ended (d : α) (ws : List (List α)) : List α := ws.flatMap (· ++ [d])

omit [DecidableEq α] in
theorem ended_concat (ws : List (List α)) (w : List α) :
    ended d (ws ++ [w]) = ended d ws ++ w ++ [d] := by
  simp [ended]

omit [DecidableEq α] in
theorem ended_append (ws : List (List α)) (w : List α) :
    ended d ws ++ w = [d].intercalate (ws ++ [w]) := by
  induction ws with
  | nil => simp [ended, intercalate]
  | cons v ws ih =>
    cases ws with
    | nil => simp [ended, intercalate]
    | cons u ws =>
      have h : ended d (v :: u :: ws) = v ++ [d] ++ ended d (u :: ws) := rfl
      rw [h, append_assoc, ih]
      simp [intercalate]

/-- What has been written once all of a text is read: its words, and a delimiter behind them
if the text ends in one. -/
def written (d : α) (ws : List (List α)) (w rest : List α) : List α :=
  [d].intercalate (ws ++ words d (w ++ rest)) ++
    if (ended d ws ++ w ++ rest).getLast? = some d then [d] else []

theorem written_nil (hw : d ∉ w) :
    written d ws w [] = ended d ws ++ w := by
  rw [written, append_nil, append_nil, words_of_notMem hw]
  split_ifs with h hlast hlast
  · subst h
    rcases eq_nil_or_concat' ws with rfl | ⟨vs, v, rfl⟩
    · simp [ended] at hlast
    · rw [append_nil, ← ended_append, append_nil, ended_concat]
  · subst h
    rcases eq_nil_or_concat' ws with rfl | ⟨vs, v, rfl⟩
    · rfl
    · simp [ended_concat] at hlast
  · exfalso
    obtain ⟨v, x, rfl⟩ := (eq_nil_or_concat' w).resolve_left h
    rw [← append_assoc, getLast?_concat] at hlast
    exact hw (by simp [Option.some.inj hlast])
  · rw [append_nil, ended_append]

theorem written_cons (ws : List (List α)) (w rest : List α) (c : α) :
    written d ws w (c :: rest) = written d ws (w ++ [c]) rest := by
  simp [written]

/-- A delimiter ends a word. -/
theorem written_end (hw : d ∉ w) (hne : w ≠ []) (ws : List (List α))
    (rest : List α) : written d ws w (d :: rest) = written d (ws ++ [w]) [] rest := by
  simp [written, words_append_cons hw, hne, ended_concat]

/-- A delimiter behind a delimiter is skipped. -/
theorem written_skip (hne : ws ≠ []) (rest : List α) :
    written d ws [] (d :: rest) = written d ws [] rest := by
  obtain ⟨vs, v, rfl⟩ := (eq_nil_or_concat' ws).resolve_left hne
  cases rest <;> simp [written, words_cons_delimiter, ended_concat]

/-- Nothing that was written is taken back. -/
theorem le_length_written (hw : d ∉ w) (rest : List α) :
    (ended d ws ++ w).length ≤ (written d ws w rest).length := by
  induction rest generalizing ws w with
  | nil => rw [written_nil hw]
  | cons c rest ih =>
    by_cases hc : c = d
    · subst hc
      rcases eq_or_ne w [] with rfl | hne
      · rcases eq_or_ne ws [] with rfl | hws
        · exact Nat.zero_le _
        · rw [written_skip hws]
          exact ih hw
      · rw [written_end hw hne]
        refine Nat.le_trans ?_ (ih not_mem_nil)
        rw [ended_concat]
        simp
    · rw [written_cons]
      refine Nat.le_trans ?_ (ih (by simp [hw, Ne.symm hc]))
      simp

theorem getLast?_squeeze (l : List α) : (squeeze d l).getLast? ≠ some d := by
  rcases eq_nil_or_concat' (words d l) with h | ⟨ws, w, h⟩
  · simp [squeeze, h]
  obtain ⟨hne, hw⟩ := mem_words (h ▸ mem_concat_self : w ∈ words d l)
  obtain ⟨v, x, rfl⟩ := (eq_nil_or_concat' w).resolve_left hne
  rw [squeeze, h, ← ended_append, ← append_assoc, getLast?_concat]
  rintro ⟨⟩
  exact hw (by simp)

theorem rdropWhile_squeeze (l : List α) : (squeeze d l).rdropWhile (· == d) = squeeze d l := by
  refine rdropWhile_eq_self_iff.mpr fun hne hx => getLast?_squeeze (d := d) l ?_
  rw [getLast?_eq_some_getLast hne, eq_of_beq hx]

/-- Without the delimiter at its end, what was written is the squeezed text. -/
theorem rdropWhile_written (l : List α) :
    (written d [] [] l).rdropWhile (· == d) = squeeze d l := by
  rw [written]
  split_ifs
  · rw [rdropWhile_concat_pos _ _ _ (by simp)]
    exact rdropWhile_squeeze l
  · rw [append_nil]
    exact rdropWhile_squeeze l

omit [DecidableEq α] in
/-- What is dropped at the end of a text is dropped up to the first element that stays. -/
theorem rdropWhile_append_all {p : α → Bool} {x y : List α} (hx : ∀ c ∈ x.getLast?, p c = false)
    (hy : ∀ c ∈ y, p c = true) : (x ++ y).rdropWhile p = x := by
  induction y using reverseRecOn with
  | nil =>
    rw [append_nil, rdropWhile_eq_self_iff]
    intro hne
    simpa using hx _ (getLast?_eq_some_getLast hne)
  | append_singleton y b ih =>
    rw [← append_assoc, rdropWhile_concat_pos _ _ _ (hy b (by simp))]
    exact ih fun c hc => hy c (mem_append_left _ hc)

end Virp.Words
