import Mathlib.Data.List.Basic

/-! # Hash-linked logs

A log is *linked* from a number and a starting hash when its records carry
consecutive numbers and each names the hash of the record before it.  A linked log
is linked piece by piece (`linked_append`), its numbers are those of its positions
(`Linked.seq_getElem`), and it is therefore sorted and free of repetitions.
-/
namespace HashChain

open List

variable {α β : Type*} (seq : α → Int) (prev hash : α → β)

/-- The records are numbered from `n` on, and each links to the one before, the
first to `p`. -/
def Linked : Int → β → List α → Prop
  | _, _, [] => True
  | n, p, a :: l => seq a = n ∧ prev a = p ∧ Linked (n + 1) (hash a) l

/-- The hash a further record has to link to. -/
def tip (p : β) (l : List α) : β := (l.getLast?.map hash).getD p

variable {seq prev hash} {n : Int} {p : β} {l : List α}

@[simp] theorem tip_nil : tip hash p [] = p := rfl

@[simp] theorem tip_cons (a : α) : tip hash p (a :: l) = tip hash (hash a) l := by
  rcases eq_nil_or_concat l with rfl | ⟨l, b, rfl⟩
  · rfl
  · rw [tip, tip, concat_eq_append, ← cons_append, getLast?_concat,
      getLast?_concat]
    rfl

@[simp] theorem tip_concat (a : α) : tip hash p (l ++ [a]) = hash a := by
  simp [tip]

/-- **A log is linked piece by piece.** -/
theorem linked_append {l' : List α} : Linked seq prev hash n p (l ++ l') ↔
      Linked seq prev hash n p l ∧ Linked seq prev hash (n + l.length) (tip hash p l) l' := by
  induction l generalizing n p with
  | nil => simp [Linked]
  | cons b l ih =>
    simp only [cons_append, Linked, ih, tip_cons, length_cons]
    have hlen : n + 1 + (l.length : Int) = n + ((l.length + 1 : Nat) : Int) := by omega
    rw [hlen]
    tauto

/-- A linked log grows at its end. -/
theorem linked_concat {a : α} : Linked seq prev hash n p (l ++ [a]) ↔
      Linked seq prev hash n p l ∧ seq a = n + l.length ∧ prev a = tip hash p l := by
  simp [linked_append, Linked]

/-- Only the three projections of a record matter. -/
theorem linked_map {γ : Type*} (f : γ → α) (l : List γ) : Linked seq prev hash n p (l.map f) ↔
      Linked (fun c => seq (f c)) (fun c => prev (f c)) (fun c => hash (f c)) n p l := by
  induction l generalizing n p with
  | nil => exact Iff.rfl
  | cons a l ih => simp only [map_cons, Linked, ih]

theorem tip_map {γ : Type*} (f : γ → α) (l : List γ) :
    tip hash p (l.map f) = tip (fun c => hash (f c)) p l := by
  simp [tip, getLast?_map, Function.comp_def]

section
variable (h : Linked seq prev hash n p l)
include h

theorem Linked.seq_getElem (k : Nat) (hk : k < l.length) : seq l[k] = n + k := by
  induction l generalizing n p k with
  | nil => cases hk
  | cons a l ih =>
    cases k with
    | zero => simpa using h.1
    | succ k =>
      have := ih h.2.2 k (by simpa using hk)
      simp only [getElem_cons_succ, this]
      omega

/-- The numbers of a linked log lie in its range. -/
theorem Linked.seq_mem {a : α} (ha : a ∈ l) : n ≤ seq a ∧ seq a < n + l.length := by
  obtain ⟨k, hk, rfl⟩ := getElem_of_mem ha
  rw [h.seq_getElem k hk]
  omega

theorem Linked.pairwise : l.Pairwise (fun a b => seq a < seq b) := by
  rw [pairwise_iff_getElem]
  intro i j hi hj hij
  rw [h.seq_getElem i hi, h.seq_getElem j hj]
  omega

/-- A number occurs once in a linked log. -/
theorem Linked.eq_getElem {a : α} (ha : a ∈ l) {k : Nat} (hk : k < l.length) (hseq : seq a = n + k) :
    a = l[k] := by
  obtain ⟨j, hj, rfl⟩ := getElem_of_mem ha
  rw [h.seq_getElem j hj] at hseq
  obtain rfl : j = k := by omega
  rfl

theorem Linked.eq_of_seq_eq {a b : α} (ha : a ∈ l) (hb : b ∈ l) (hseq : seq a = seq b) : a = b := by
  obtain ⟨k, hk, rfl⟩ := getElem_of_mem hb
  exact h.eq_getElem ha hk (hseq.trans (h.seq_getElem k hk))

end

/-- **A linked log made of another one's records is a beginning of it.**  Records
are compared through `f` and `g`; the numbers place them. -/
theorem Linked.map_eq_take {α' γ : Type*} {seq' : α' → Int} {prev' hash' : α' → β} {q : β}
    {m : List α'} (hl : Linked seq prev hash n p l) (hm : Linked seq' prev' hash' n q m)
    {f : α → γ} {g : α' → γ} (h : ∀ a ∈ l, ∃ b ∈ m, f a = g b ∧ seq a = seq' b) :
    l.map f = (m.take l.length).map g := by
  have hat : ∀ k (hk : k < l.length), ∃ hk' : k < m.length, f l[k] = g m[k] := by
    intro k hk
    obtain ⟨b, hb, hfg, hseq⟩ := h l[k] (getElem_mem hk)
    rw [hl.seq_getElem k hk] at hseq
    have hbound := hm.seq_mem hb
    have hk' : k < m.length := by omega
    obtain rfl := hm.eq_getElem hb hk' hseq.symm
    exact ⟨hk', hfg⟩
  have hlen : l.length ≤ m.length := by
    by_contra hlt
    obtain ⟨hk', -⟩ := hat m.length (by omega)
    omega
  refine ext_getElem (by simp [hlen]) ?_
  intro k h1 h2
  obtain ⟨hk', hfg⟩ := hat k (by simpa using h1)
  simpa using hfg

end HashChain
