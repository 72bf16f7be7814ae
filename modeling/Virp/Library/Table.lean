import Mathlib.Data.List.Basic
import Mathlib.Data.List.Pairwise

/-! # Tables with uniqueness constraints

A table is a list of rows, oldest first, no two of which clash; `clash` says
which pairs of rows a table's `UNIQUE` constraints forbid.  The three insertions
of SQL differ in what a clash does: `insert` refuses the row, `insertOrIgnore`
keeps the table as it is, and `replace` deletes the rows it clashes with.
-/

/-- Rows, oldest first, that satisfy their uniqueness constraints. -/
structure Table (α : Type) (clash : α → α → Bool) where
  rows : List α
  apart : rows.Pairwise (fun a b => clash a b = false)

namespace Table

variable {α : Type} {clash : α → α → Bool}

instance [DecidableEq α] : DecidableEq (Table α clash) := fun s t =>
  decidable_of_iff (s.rows = t.rows) ⟨fun h => by cases s; cases t; congr, fun h => h ▸ rfl⟩

/-- No rows. -/
def empty : Table α clash := ⟨[], List.Pairwise.nil⟩

@[simp] theorem rows_empty : (empty : Table α clash).rows = [] := rfl

theorem apart_concat {l : List α} {r : α} (hl : l.Pairwise (fun a b => clash a b = false))
    (hr : ∀ a ∈ l, clash a r = false) : (l ++ [r]).Pairwise (fun a b => clash a b = false) := by
  refine List.pairwise_append.mpr ⟨hl, List.pairwise_singleton _ _, ?_⟩
  intro a ha b hb
  rw [List.mem_singleton.mp hb]
  exact hr a ha

/-- `INSERT`: refused if the row clashes with a stored one. -/
def insert (t : Table α clash) (r : α) : Option (Table α clash) :=
  if h : ∀ a ∈ t.rows, clash a r = false then some ⟨t.rows ++ [r], apart_concat t.apart h⟩
  else none

/-- `INSERT ... ON CONFLICT DO NOTHING`. -/
def insertOrIgnore (t : Table α clash) (r : α) : Table α clash := (t.insert r).getD t

/-- `INSERT OR REPLACE`. -/
def replace (t : Table α clash) (r : α) : Table α clash where
  rows := t.rows.filter (fun a => !clash a r) ++ [r]
  apart := apart_concat (t.apart.filter _) (by
    intro a ha
    simpa using (List.mem_filter.mp ha).2)

/-- What a successful insertion says: the row clashed with nothing, and is now
the table's last. -/
theorem insert_eq_some {t u : Table α clash} {r : α} (h : t.insert r = some u) :
    (∀ a ∈ t.rows, clash a r = false) ∧ u.rows = t.rows ++ [r] := by
  unfold insert at h
  split at h
  · rename_i hfree
    cases h
    exact ⟨hfree, rfl⟩
  · cases h

/-- A row that clashes with nothing is inserted. -/
theorem exists_insert {t : Table α clash} {r : α} (h : ∀ a ∈ t.rows, clash a r = false) :
    ∃ u, t.insert r = some u ∧ u.rows = t.rows ++ [r] := ⟨_, dif_pos h, rfl⟩

@[simp] theorem rows_replace (t : Table α clash) (r : α) :
    (t.replace r).rows = t.rows.filter (fun a => !clash a r) ++ [r] := rfl

/-- Nothing is lost and nothing but the row is added. -/
theorem mem_insertOrIgnore {t : Table α clash} {r a : α} (h : a ∈ (t.insertOrIgnore r).rows) :
    a ∈ t.rows ∨ a = r := by
  unfold insertOrIgnore at h
  cases hi : t.insert r with
  | none => exact Or.inl (by simpa [hi] using h)
  | some u =>
    have hu : a ∈ t.rows ++ [r] := by
      rw [← (insert_eq_some hi).2]
      simpa [hi] using h
    simpa using hu

/-- **Uniqueness.**  Two stored rows that clash are one row. -/
theorem eq_of_clash (hsymm : ∀ a b, clash a b = clash b a) (t : Table α clash)
    {a b : α} (ha : a ∈ t.rows) (hb : b ∈ t.rows) (h : clash a b = true) : a = b := by
  by_contra hne
  have hs : Std.Symm (fun x y => clash x y = false) := ⟨fun x y hxy => by rw [hsymm y x, hxy]⟩
  exact absurd (t.apart.forall ha hb hne) (by simp [h])

end Table
