import Mathlib.Data.List.Basic
import Mathlib.Data.List.Sort

/-! # Counting matches in a sorted array

The idiom of `qsort`, `bsearch` and a walk to both sides: in an array sorted by
some key, find one element that compares equal to the sought key, and widen the
hit to the block of all elements that do.  `matchBlock_count` says that the
width of the block is the number of matching elements of the array, as a plain
scan would count them, and `matchBlock_first` that the block starts at a match.

Elements are compared with the key by `c : α → Ordering` (`lt` before the key,
`eq` a match, `gt` after it), and sortedness is that `c` never decreases.
-/
namespace SortedSearch

open List

variable {α : Type} (c : α → Ordering)

/-- `bsearch`: halve `[lo, hi)` until a match is found.  `fuel` bounds the number
of halvings. -/
def bsearchAux (l : List α) : Nat → Nat → Nat → Option Nat
  | 0, _, _ => none
  | fuel + 1, lo, hi =>
    if lo < hi then
      match l[(lo + hi) / 2]? with
      | none => none
      | some x =>
        match c x with
        | .gt => bsearchAux l fuel lo ((lo + hi) / 2)
        | .lt => bsearchAux l fuel ((lo + hi) / 2 + 1) hi
        | .eq => some ((lo + hi) / 2)
    else none

def bsearch (l : List α) : Option Nat := bsearchAux c l l.length 0 l.length

/-- `while (lo > 0 && match(arr[lo - 1])) lo--;` -/
def walkDown (l : List α) : Nat → Nat
  | 0 => 0
  | i + 1 => if (l[i]?.map c) = some .eq then walkDown l i else i + 1

/-- `while (hi + 1 < n && match(arr[hi + 1])) hi++;`, with `fuel` steps. -/
def walkUp (l : List α) : Nat → Nat → Nat
  | 0, i => i
  | fuel + 1, i => if (l[i + 1]?.map c) = some .eq then walkUp l fuel (i + 1) else i

/-- The block of matches around the hit, as first index and number. -/
def matchBlock (l : List α) : Option (Nat × Nat) :=
  match bsearch c l with
  | none => none
  | some i => some (walkDown c l i, walkUp c l l.length i - walkDown c l i + 1)

/-- The order of the three answers of a comparison. -/
def rank : Ordering → Nat
  | .lt => 0
  | .eq => 1
  | .gt => 2

/-- Sorted with respect to the key: first what is before it, then the matches,
then what is after it. -/
def Sorted (l : List α) : Prop := l.Pairwise (fun a b => rank (c a) ≤ rank (c b))

/-- The matches of `l` are the `b` elements from index `a` on. -/
structure Block (l : List α) (a b : Nat) : Prop where
  le_length : a + b ≤ l.length
  lt_iff : ∀ i x, l[i]? = some x → (c x = .lt ↔ i < a)
  eq_iff : ∀ i x, l[i]? = some x → (c x = .eq ↔ a ≤ i ∧ i < a + b)

variable {c}

variable {l : List α}

theorem Sorted.countP_eq_zero {x : α} (h : Sorted c (x :: l)) {o : Ordering}
    (ho : rank o < rank (c x)) : l.countP (fun y => c y == o) = 0 := by
  refine List.countP_eq_zero.mpr ?_
  intro y hy heq
  have hle := (List.pairwise_cons.mp h).1 y hy
  rw [eq_of_beq heq] at hle
  omega

/-- **In a sorted array the matches form one block**, as long as the number of
matches. -/
theorem Sorted.block (h : Sorted c l) :
    Block c l (l.countP (fun x => c x == .lt)) (l.countP (fun x => c x == .eq)) := by
  induction l with
  | nil => exact ⟨Nat.le_refl 0, by simp, by simp⟩
  | cons x l ih =>
    have hb := ih (pairwise_cons.mp h).2
    have hshift : ∀ a b, Block c l a b → (c x = .lt ∨ c x = .eq ∧ a = 0 ∨ c x = .gt ∧ a = 0 ∧ b = 0) →
        Block c (x :: l) (a + if c x = .lt then 1 else 0) (b + if c x = .eq then 1 else 0) := by
      intro a b hab hx
      refine ⟨?_, ?_, ?_⟩
      · have := hab.le_length
        rcases hx with hx | ⟨hx, ha⟩ | ⟨hx, ha, hb⟩ <;> simp [hx] <;> omega
      · intro i y hy
        cases i with
        | zero =>
          obtain rfl : x = y := by simpa using hy
          rcases hx with hx | ⟨hx, ha⟩ | ⟨hx, ha, hb⟩ <;> simp [hx] <;> omega
        | succ i =>
          have := hab.lt_iff i y (by simpa using hy)
          rcases hx with hx | ⟨hx, ha⟩ | ⟨hx, ha, hb⟩ <;> simp [hx, this] <;> omega
      · intro i y hy
        cases i with
        | zero =>
          obtain rfl : x = y := by simpa using hy
          rcases hx with hx | ⟨hx, ha⟩ | ⟨hx, ha, hb⟩ <;> simp [hx] <;> omega
        | succ i =>
          have := hab.eq_iff i y (by simpa using hy)
          rcases hx with hx | ⟨hx, ha⟩ | ⟨hx, ha, hb⟩ <;> simp [hx, this] <;> omega
    have hstep := hshift _ _ hb (by
      cases hx : c x with
      | lt => exact Or.inl rfl
      | eq => exact Or.inr (Or.inl ⟨rfl, h.countP_eq_zero (by rw [hx]; decide)⟩)
      | gt =>
        exact Or.inr (Or.inr ⟨rfl, h.countP_eq_zero (by rw [hx]; decide),
          h.countP_eq_zero (by rw [hx]; decide)⟩))
    simpa [countP_cons] using hstep

variable {i a b : Nat}

variable {fuel lo n : Nat} {hit : Option Nat}

theorem bsearchAux_some {hi : Nat} (h : bsearchAux c l fuel lo hi = some i) :
    ∃ x, l[i]? = some x ∧ c x = .eq := by
  induction fuel generalizing lo hi with
  | zero => cases h
  | succ fuel ih =>
    unfold bsearchAux at h
    split at h
    · split at h
      · cases h
      rename_i x hx
      split at h
      · exact ih h
      · exact ih h
      · rename_i heq
        cases h
        exact ⟨x, hx, heq⟩
    · cases h

/-- The search finds a match in every range that still holds the block. -/
theorem bsearchAux_finds (hab : Block c l a b) (hb : 0 < b) :
    ∀ {fuel lo hi : Nat}, lo ≤ a → a + b ≤ hi → hi ≤ l.length → hi - lo ≤ fuel →
      ∃ i, bsearchAux c l fuel lo hi = some i := by
  intro fuel
  induction fuel with
  | zero => intro lo hi _ _ _ _; omega
  | succ fuel ih =>
    intro lo hi hlo hhi hlen hfuel
    have hmid : (lo + hi) / 2 < l.length := by omega
    have hget : l[(lo + hi) / 2]? = some l[(lo + hi) / 2] := getElem?_eq_getElem hmid
    have hlt := hab.lt_iff _ _ hget
    have heq := hab.eq_iff _ _ hget
    unfold bsearchAux
    rw [if_pos (by omega), hget]
    simp only
    cases hc : c l[(lo + hi) / 2] with
    | lt => exact ih (by have := hlt.mp hc; omega) hhi hlen (by omega)
    | eq => exact ⟨_, rfl⟩
    | gt =>
      have h1 : ¬ (lo + hi) / 2 < a := fun hn => by simp [hlt.mpr hn] at hc
      have h2 : ¬ (a ≤ (lo + hi) / 2 ∧ (lo + hi) / 2 < a + b) := fun hn => by
        simp [heq.mpr hn] at hc
      exact ih hlo (by omega) (by omega) (by omega)

theorem match_at_iff (hab : Block c l a b) :
    (l[i]?.map c) = some .eq ↔ a ≤ i ∧ i < a + b := by
  cases hx : l[i]? with
  | none =>
    have := getElem?_eq_none_iff.mp hx
    have := hab.le_length
    simp
    omega
  | some x => simpa using hab.eq_iff i x hx

theorem walkDown_eq (hab : Block c l a b) (hlo : a ≤ i) (hhi : i < a + b) :
    walkDown c l i = a := by
  induction i with
  | zero => simp [walkDown]; omega
  | succ i ih =>
    unfold walkDown
    by_cases hi : a ≤ i
    · rw [if_pos ((match_at_iff hab).mpr ⟨hi, by omega⟩)]
      exact ih hi (by omega)
    · rw [if_neg (fun h => hi ((match_at_iff hab).mp h).1)]
      omega

theorem walkUp_eq (hab : Block c l a b) (hlo : a ≤ i) (hhi : i < a + b)
    (hfuel : a + b - 1 - i ≤ fuel) : walkUp c l fuel i = a + b - 1 := by
  induction fuel generalizing i with
  | zero => simp [walkUp]; omega
  | succ fuel ih =>
    unfold walkUp
    by_cases hi : i + 1 < a + b
    · rw [if_pos ((match_at_iff hab).mpr ⟨by omega, hi⟩)]
      exact ih (by omega) hi (by omega)
    · rw [if_neg (fun h => hi ((match_at_iff hab).mp h).2)]
      omega

variable (c) in
/-- What a search of a sorted array may answer: the index of any match, or nothing if there is
none. -/
structure Finds (l : List α) (hit : Option Nat) : Prop where
  isMatch : ∀ i, hit = some i → ∃ x, l[i]? = some x ∧ c x = .eq
  noMatch : hit = none → l.countP (fun x => c x == .eq) = 0

variable (c) in
/-- The block of matches around a hit, as first index and number. -/
def blockAround (l : List α) (hit : Option Nat) : Option (Nat × Nat) :=
  match hit with
  | none => none
  | some i => some (walkDown c l i, walkUp c l l.length i - walkDown c l i + 1)

/-- **The walk counts what a scan counts**, from whichever match it starts.  The block found
around the hit is the block of all matches, and no hit means no match. -/
theorem blockAround_eq (h : Sorted c l) (hf : Finds c l hit) : blockAround c l hit =
      if l.countP (fun x => c x == .eq) = 0 then none
      else some (l.countP (fun x => c x == .lt), l.countP (fun x => c x == .eq)) := by
  have hab := h.block
  have hlen := hab.le_length
  cases hit with
  | none => rw [if_pos (hf.noMatch rfl)]; rfl
  | some i =>
    obtain ⟨x, hx, hxe⟩ := hf.isMatch i rfl
    obtain ⟨h1, h2⟩ := (hab.eq_iff i x hx).mp hxe
    rw [blockAround, if_neg (by omega), walkDown_eq hab h1 h2, walkUp_eq hab h1 h2 (by omega)]
    congr 2
    omega

/-- The halving search finds a match, if there is one. -/
theorem finds_bsearch (h : Sorted c l) : Finds c l (bsearch c l) := by
  refine ⟨fun i hi => bsearchAux_some hi, fun hnone => ?_⟩
  by_contra hb
  have hab := h.block
  obtain ⟨i, hi⟩ := bsearchAux_finds hab (Nat.pos_of_ne_zero hb) (Nat.zero_le _) hab.le_length
    (Nat.le_refl _) (show l.length - 0 ≤ l.length by omega)
  rw [bsearch, hi] at hnone
  cases hnone

/-- The number of matches the walk reports. -/
theorem matchBlock_count (h : Sorted c l) :
    ((matchBlock c l).map Prod.snd).getD 0 = l.countP (fun x => c x == .eq) := by
  rw [show matchBlock c l = _ from blockAround_eq h (finds_bsearch h)]
  split
  · rename_i h0
    exact h0.symm
  · rfl

/-- The block starts at a match. -/
theorem blockAround_first (h : Sorted c l) (hf : Finds c l hit)
    (hm : blockAround c l hit = some (lo, n)) : ∃ x, l[lo]? = some x ∧ c x = .eq := by
  have hab := h.block
  have hlen := hab.le_length
  rw [blockAround_eq h hf] at hm
  split at hm
  · cases hm
  rename_i h0
  obtain ⟨rfl, rfl⟩ := Prod.mk.inj (Option.some.inj hm)
  have hlt : l.countP (fun x => c x == .lt) < l.length := by omega
  have hget := getElem?_eq_getElem hlt
  exact ⟨_, hget, (hab.eq_iff _ _ hget).mpr ⟨Nat.le_refl _, by omega⟩⟩

theorem matchBlock_first (h : Sorted c l) (hm : matchBlock c l = some (lo, n)) :
    ∃ x, l[lo]? = some x ∧ c x = .eq := blockAround_first h (finds_bsearch h) hm

/-- A sort and a search as a C library promises them: `qsort` sorts, in whatever order it leaves
equal elements, and `bsearch` finds any one of the matches of a sorted array. -/
structure SearchLib where
  qsort {α : Type} (cmp : α → α → Ordering) (l : List α) : List α
  bsearch {α : Type} (c : α → Ordering) (l : List α) : Option Nat
  qsort_perm {α : Type} (cmp : α → α → Ordering) (l : List α) : (qsort cmp l).Perm l
  qsort_pairwise {α : Type} (cmp : α → α → Ordering) (l : List α)
    (total : ∀ a b, cmp a b ≠ .gt ∨ cmp b a ≠ .gt)
    (trans : ∀ a b d, cmp a b ≠ .gt → cmp b d ≠ .gt → cmp a d ≠ .gt) :
    (qsort cmp l).Pairwise (fun a b => cmp a b ≠ .gt)
  bsearch_finds {α : Type} (c : α → Ordering) (l : List α) (sorted : Sorted c l) :
    Finds c l (bsearch c l)

/-- Insertion sort and the halving search. -/
def SearchLib.insertion : SearchLib where
  qsort cmp l := l.insertionSort (fun a b => cmp a b ≠ .gt)
  bsearch := SortedSearch.bsearch
  qsort_perm _ l := List.perm_insertionSort _ l
  qsort_pairwise cmp l total trans :=
    have : Std.Total (fun a b => cmp a b ≠ .gt) := ⟨total⟩
    have : IsTrans _ (fun a b => cmp a b ≠ .gt) := ⟨trans⟩
    List.pairwise_insertionSort _ l
  bsearch_finds _ _ sorted := finds_bsearch sorted

/-- A range of a sorted array is made of its two parts. -/
theorem filter_between_append {f : α → Int} (hl : l.Pairwise fun a b => f a ≤ f b)
    {lo mid hi : Int} (hlo : lo ≤ mid) (hhi : mid < hi) : l.filter (fun a => lo ≤ f a && f a ≤ hi) =
      l.filter (fun a => lo ≤ f a && f a ≤ mid) ++
        l.filter (fun a => mid + 1 ≤ f a && f a ≤ hi) := by
  induction l with
  | nil => rfl
  | cons a l ih =>
    obtain ⟨ha, hl⟩ := pairwise_cons.mp hl
    by_cases hmid : f a ≤ mid
    · have hnot : ¬ mid + 1 ≤ f a := by omega
      have hle : f a ≤ hi := by omega
      simp only [filter_cons, hmid, hnot, hle, decide_true, decide_false, Bool.and_true,
        Bool.false_eq_true, if_false]
      rw [ih hl]
      split_ifs <;> rfl
    · -- everything from here on is in the second part
      have hafter : ∀ b ∈ a :: l, f a ≤ f b := forall_mem_cons.mpr ⟨Int.le_refl _, ha⟩
      have hnone : (a :: l).filter (fun b => lo ≤ f b && f b ≤ mid) = [] := by
        refine filter_eq_nil_iff.mpr fun b hb => ?_
        have hab := hafter b hb
        simp only [Bool.and_eq_true, decide_eq_true_eq]
        omega
      rw [hnone, nil_append]
      refine filter_congr fun b hb => ?_
      have hab := hafter b hb
      have h1 : lo ≤ f b := by omega
      have h2 : mid + 1 ≤ f b := by omega
      simp [h1, h2]

end SortedSearch
