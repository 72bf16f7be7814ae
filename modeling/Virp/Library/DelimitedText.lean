import Mathlib.Algebra.GroupWithZero.Nat
import Mathlib.Data.List.Basic

/-! # Templates with delimited fields

A text built by pasting fields between fixed literals, with no escaping, is read
back unambiguously as long as no field holds the symbol that starts the literal
after it.  `fill` is such a text: a list of fields, each with the literal that
closes it.

Two facts carry every use.  `fill_inj`: with the same closing literals, equal
texts have equal fields.  `clean_of_fill_eq`: if one filling is free of a symbol
in all of its fields, so is every other filling with the same text.  The second
is what an adversary's fields cannot escape: it needs no promise about them.
-/
namespace Delimited

open List

variable {α : Type}

/-- The text of a list of fields, each followed by the literal that closes it. -/
def fill : List (List α × List α) → List α
  | [] => []
  | (field, close) :: rest => field ++ close ++ fill rest

@[simp] theorem fill_nil : fill ([] : List (List α × List α)) = [] := rfl

@[simp] theorem fill_cons (field close : List α) (rest : List (List α × List α)) :
    fill ((field, close) :: rest) = field ++ close ++ fill rest := rfl

theorem length_fill (fs : List (List α × List α)) :
    (fill fs).length = (fs.map (fun p => p.1.length)).sum + (fs.map (fun p => p.2.length)).sum := by
  induction fs with
  | nil => rfl
  | cons p fs ih =>
    simp only [fill, length_append, ih, map_cons, sum_cons]
    omega

/-- A field that avoids the symbol after it ends where that symbol first occurs. -/
theorem append_cons_inj {d : α} {a b x y : List α} (ha : d ∉ a) (hb : d ∉ b)
    (h : a ++ d :: x = b ++ d :: y) : a = b ∧ x = y := by
  induction a generalizing b with
  | nil =>
    cases b with
    | nil => exact ⟨rfl, by simpa using h⟩
    | cons c b =>
      have hd : d = c := (cons.inj h).1
      exact absurd (hd ▸ mem_cons_self) hb
  | cons c a ih =>
    cases b with
    | nil =>
      have hd : c = d := (cons.inj h).1
      exact absurd (hd ▸ mem_cons_self) ha
    | cons c' b =>
      obtain ⟨rfl, ht⟩ := cons.inj h
      obtain ⟨rfl, hxy⟩ := ih (fun hm => ha (mem_cons_of_mem _ hm))
        (fun hm => hb (mem_cons_of_mem _ hm)) ht
      exact ⟨rfl, hxy⟩

/-- Every field avoids the first symbol of the literal that closes it. -/
def Separated (fs : List (List α × List α)) : Prop :=
  ∀ p ∈ fs, ∃ d close, p.2 = d :: close ∧ d ∉ p.1

theorem Separated.tail {p : List α × List α} {fs : List (List α × List α)}
    (h : Separated (p :: fs)) : Separated fs := fun q hq => h q (mem_cons_of_mem _ hq)

/-- **Fields are read back.**  Two separated fillings of one template with the
same text have the same fields. -/
theorem fill_inj {fs gs : List (List α × List α)} (hf : Separated fs) (hg : Separated gs)
    (h : fill fs = fill gs) (hclose : fs.map Prod.snd = gs.map Prod.snd) : fs = gs := by
  induction fs generalizing gs with
  | nil =>
    cases gs with
    | nil => rfl
    | cons q gs => simp at hclose
  | cons p fs ih =>
    cases gs with
    | nil => simp at hclose
    | cons q gs =>
      obtain ⟨field, close⟩ := p
      obtain ⟨field', close'⟩ := q
      obtain ⟨hc, hrest⟩ := cons.inj hclose
      obtain rfl : close = close' := hc
      obtain ⟨d, tail, hd, hmem⟩ := hf _ mem_cons_self
      obtain ⟨d', tail', hd', hmem'⟩ := hg _ mem_cons_self
      obtain rfl : close = d :: tail := hd
      obtain ⟨rfl, rfl⟩ : d = d' ∧ tail = tail' := cons.inj hd'
      have heq : field ++ d :: (tail ++ fill fs) = field' ++ d :: (tail ++ fill gs) := by
        simpa using h
      obtain ⟨rfl, ht⟩ := append_cons_inj hmem hmem' heq
      rw [ih hf.tail hg.tail (append_cancel_left ht) hrest]

section Counting
variable [DecidableEq α]

/-- How often `q` occurs in a filling: in its fields, and in its literals. -/
theorem count_fill (q : α) (fs : List (List α × List α)) : (fill fs).count q =
      ((fs.map Prod.fst).map (List.count q)).sum + ((fs.map Prod.snd).map (List.count q)).sum := by
  induction fs with
  | nil => rfl
  | cons p fs ih =>
    obtain ⟨field, close⟩ := p
    simp only [fill_cons, count_append, ih, map_cons, sum_cons]
    omega

theorem sum_count_eq_zero_iff {q : α} {l : List (List α)} :
    (l.map (List.count q)).sum = 0 ↔ ∀ x ∈ l, q ∉ x := by
  induction l with
  | nil => simp
  | cons x l ih => simp [ih, count_eq_zero]

/-- **Clean texts have clean fields.**  If no field of one filling holds `q`,
then no field of any other filling of the template with the same text does: the
literals already account for every `q` in the text. -/
theorem clean_of_fill_eq {q : α} {fs gs : List (List α × List α)}
    (hclean : ∀ p ∈ fs, q ∉ p.1) (h : fill fs = fill gs)
    (hclose : fs.map Prod.snd = gs.map Prod.snd) : ∀ p ∈ gs, q ∉ p.1 := by
  have hcount := congrArg (List.count q) h
  have hzero : ((fs.map Prod.fst).map (List.count q)).sum = 0 :=
    sum_count_eq_zero_iff.mpr (forall_mem_map.mpr hclean)
  rw [count_fill, count_fill, hclose, hzero] at hcount
  have hall : ∀ x ∈ gs.map Prod.fst, q ∉ x := sum_count_eq_zero_iff.mp (by omega)
  exact fun p hp => hall p.1 (mem_map_of_mem hp)

end Counting
end Delimited
