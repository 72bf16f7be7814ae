import Mathlib.Data.List.Basic

/-! # Arrays with a count

An array of a fixed size of which the first `count` cells are in use: what the array holds are its
items, and what stands in the other cells is left over.  Rows that are found by a key are replaced
in place, or added behind the last one.
-/

/-- An array of `n` cells and the number of those in use. -/
structure Slots (α : Type) (n : Nat) where
  cells : List α
  count : Nat
  length_cells : cells.length = n
  count_le : count ≤ n

namespace Slots

open List

variable {α : Type} {n : Nat}

/-- No cell is in use. -/
def blank (n : Nat) (a : α) : Slots α n where
  cells := List.replicate n a
  count := 0
  length_cells := List.length_replicate
  count_le := Nat.zero_le n

/-- The cells in use. -/
def items (s : Slots α n) : List α := s.cells.take s.count

/-- A write to one cell, in use or not. -/
def modify (s : Slots α n) (i : Nat) (f : α → α) : Slots α n where
  cells := s.cells.modify i f
  count := s.count
  length_cells := (List.length_modify f s.cells i).trans s.length_cells
  count_le := s.count_le

/-- One more cell is in use. -/
def extend (s : Slots α n) (h : s.count < n) : Slots α n where
  cells := s.cells
  count := s.count + 1
  length_cells := s.length_cells
  count_le := h

/-- The first cells are written, whatever is in use. -/
def overwrite (s : Slots α n) (xs : List α) (h : xs.length ≤ n) : Slots α n where
  cells := xs ++ s.cells.drop xs.length
  count := s.count
  length_cells := by rw [List.length_append, List.length_drop, s.length_cells, Nat.add_sub_cancel' h]
  count_le := s.count_le

/-- The first cells are written, and are then those in use. -/
def fill (s : Slots α n) (xs : List α) (h : xs.length ≤ n) : Slots α n where
  cells := xs ++ s.cells.drop xs.length
  count := xs.length
  length_cells := (s.overwrite xs h).length_cells
  count_le := h

variable (s : Slots α n)

theorem length_items : s.items.length = s.count := by
  rw [items, length_take, s.length_cells, Nat.min_eq_left s.count_le]

@[simp] theorem items_blank (a : α) : (blank n a).items = [] := take_zero

theorem items_modify (i : Nat) (f : α → α) : (s.modify i f).items = s.items.modify i f :=
  take_modify f i s.count s.cells

theorem items_modify_count (f : α → α) : (s.modify s.count f).items = s.items := by
  rw [items_modify, modify_eq_self (Nat.le_of_eq s.length_items)]

theorem items_extend (f : α → α) (h : s.count < n) :
    ∃ a ∈ s.cells, ((s.modify s.count f).extend h).items = s.items ++ [f a] := by
  have hlt : s.count < s.cells.length := Nat.lt_of_lt_of_eq h s.length_cells.symm
  refine ⟨s.cells[s.count], getElem_mem hlt, ?_⟩
  have hlt' : s.count < (s.cells.modify s.count f).length := by
    rw [length_modify]
    exact hlt
  change (s.cells.modify s.count f).take (s.count + 1) = _
  rw [take_succ_eq_append_getElem hlt', getElem_modify_eq]
  exact congrArg (· ++ _) (s.items_modify_count f)

theorem items_overwrite (xs : List α) (h : xs.length ≤ n) :
    (s.overwrite xs h).items = xs.take s.count ++ s.items.drop xs.length := by
  change (xs ++ s.cells.drop xs.length).take s.count = _
  rw [take_append, items, drop_take]

@[simp] theorem items_fill (xs : List α) (h : xs.length ≤ n) : (s.fill xs h).items = xs :=
  take_left

section
variable {κ β : Type} [DecidableEq κ]

/-- The first row under the key is replaced, or the row is added. -/
def upsert (k : κ) (b : β) : List (κ × β) → List (κ × β)
  | [] => [(k, b)]
  | row :: rows => if row.1 = k then (k, b) :: rows else row :: upsert k b rows

/-- The value of the first row under the key. -/
def valueOf (rows : List (κ × β)) (k : κ) : Option β := (rows.find? (·.1 == k)).map Prod.snd

theorem valueOf_upsert (rows : List (κ × β)) (k x : κ) (b : β) :
    valueOf (upsert k b rows) x = if x = k then some b else valueOf rows x := by
  induction rows with
  | nil =>
    by_cases hx : x = k
    · simp [upsert, valueOf, hx]
    · simp [upsert, valueOf, hx, Ne.symm hx]
  | cons row rows ih =>
    unfold valueOf at ih ⊢
    unfold upsert
    by_cases hrow : row.1 = k
    · by_cases hx : x = k
      · simp [hrow, hx]
      · simp [hrow, hx, Ne.symm hx]
    · by_cases hx : x = row.1
      · simp [hrow, hx]
      · simp [hrow, Ne.symm hx, ih]

theorem upsert_of_findIdx_eq_some {rows : List (κ × β)} {k : κ} {i : Nat} (b : β)
    (h : rows.findIdx? (·.1 == k) = some i) :
    upsert k b rows = rows.modify i (fun row => (row.1, b)) := by
  induction rows generalizing i with
  | nil => cases h
  | cons row rows ih =>
    rw [findIdx?_cons] at h
    by_cases hrow : row.1 = k
    · rw [if_pos (beq_iff_eq.mpr hrow)] at h
      cases h
      simp [upsert, hrow]
    · rw [if_neg (beq_iff_eq.not.mpr hrow)] at h
      obtain ⟨j, hj, rfl⟩ := Option.map_eq_some_iff.mp h
      simp [upsert, hrow, ih hj]

theorem upsert_of_findIdx_eq_none {rows : List (κ × β)} {k : κ} (b : β)
    (h : rows.findIdx? (·.1 == k) = none) : upsert k b rows = rows ++ [(k, b)] := by
  induction rows with
  | nil => rfl
  | cons row rows ih =>
    rw [findIdx?_cons] at h
    by_cases hrow : row.1 = k
    · rw [if_pos (beq_iff_eq.mpr hrow)] at h
      cases h
    · rw [if_neg (beq_iff_eq.not.mpr hrow)] at h
      simp [upsert, hrow, ih (Option.map_eq_none_iff.mp h)]

/-- A row under the key is replaced, or added if there is room for it. -/
def upsertWithin (cap : Nat) (k : κ) (b : β) (rows : List (κ × β)) : Option (List (κ × β)) :=
  if (∃ row ∈ rows, row.1 = k) ∨ rows.length < cap then some (upsert k b rows) else none

end

section
variable {κ β : Type} [DecidableEq κ] {m : Nat}

/-- The rows in use, each with what its array holds. -/
def rows (s : Slots (κ × Slots β m) n) : List (κ × List β) :=
  s.items.map (fun row => (row.1, row.2.items))

/-- The array of the first row under the key is filled, or that of a new row if there is room for
one. -/
def setRow (s : Slots (κ × Slots β m) n) (k : κ) (xs : List β) (hxs : xs.length ≤ m) :
    Option (Slots (κ × Slots β m) n) :=
  match s.items.findIdx? (·.1 == k) with
  | some i => some (s.modify i (fun row => (row.1, row.2.fill xs hxs)))
  | none =>
    if h : s.count < n then
      some ((s.modify s.count (fun row => (k, row.2.fill xs hxs))).extend h)
    else none

theorem findIdx_rows (s : Slots (κ × Slots β m) n) (k : κ) :
    s.rows.findIdx? (·.1 == k) = s.items.findIdx? (·.1 == k) := by
  rw [rows, findIdx?_map]
  rfl

/-- A row that is changed in place is changed so in the list of what the rows hold. -/
theorem map_modify {α γ : Type} {f : α → α} {g : γ → γ} {r : α → γ} (h : ∀ a, r (f a) = g (r a))
    (l : List α) (i : Nat) : (l.modify i f).map r = (l.map r).modify i g := by
  induction l generalizing i with
  | nil => simp
  | cons a l ih =>
    cases i with
    | zero => simp [h]
    | succ i => simp [ih]

theorem setRow_eq (s : Slots (κ × Slots β m) n) (k : κ) (xs : List β) (hxs : xs.length ≤ m) :
    (s.setRow k xs hxs).map rows = upsertWithin n k xs s.rows := by
  have hlen : s.rows.length = s.count := by rw [rows, length_map, s.length_items]
  unfold setRow upsertWithin
  split
  · rename_i i hi
    rw [← findIdx_rows] at hi
    have hkey : ∃ row ∈ s.rows, row.1 = k := by
      have hsome := Option.isSome_of_mem hi
      rw [findIdx?_isSome, any_eq_true] at hsome
      simpa using hsome
    rw [if_pos (.inl hkey), upsert_of_findIdx_eq_some _ hi, Option.map_some]
    congr 1
    rw [rows, items_modify]
    exact map_modify (fun row => by simp) s.items i
  · rename_i hnone
    rw [← findIdx_rows] at hnone
    have hkey : ¬ ∃ row ∈ s.rows, row.1 = k := by
      rintro ⟨row, hrow, hk⟩
      have := findIdx?_eq_none_iff.mp hnone row hrow
      simp [hk] at this
    rw [upsert_of_findIdx_eq_none _ hnone]
    by_cases hroom : s.count < n
    · obtain ⟨a, -, ha⟩ := s.items_extend (fun row => (k, row.2.fill xs hxs)) hroom
      rw [dif_pos hroom, if_pos (.inr (hlen.symm ▸ hroom)), Option.map_some, rows, ha]
      simp [rows]
    · rw [dif_neg hroom, if_neg (not_or.mpr ⟨hkey, hlen.symm ▸ hroom⟩), Option.map_none]

end

end Slots
