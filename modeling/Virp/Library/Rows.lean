import Mathlib.Data.List.Basic

/-! # Rows under a primary key

A table whose rows are found by their key: the keys in the order of insertion, and the row
under each.  A row is inserted under a new key or not at all, and is changed in place.
-/

/-- The rows of a table with a primary key. -/
structure Rows (κ α : Type) where
  /-- oldest first -/
  keys : List κ
  get : κ → Option α
  mem_keys : ∀ k, k ∈ keys ↔ (get k).isSome = true

namespace Rows

variable {κ α : Type} [DecidableEq κ] {t u : Rows κ α} {k x : κ} {a b : α} {f : α → α}

/-- No rows. -/
def empty : Rows κ α := ⟨[], fun _ => none, by simp⟩

/-- `INSERT`: refused if there is a row under the key. -/
def insert (t : Rows κ α) (k : κ) (a : α) : Option (Rows κ α) :=
  if (t.get k).isSome then none
  else some ⟨t.keys ++ [k], fun x => if x = k then some a else t.get x, by
    intro x
    simp only [List.mem_append, List.mem_singleton, t.mem_keys x]
    by_cases hx : x = k <;> simp [hx]⟩

/-- `INSERT OR REPLACE`: the new row takes the place of one under the key. -/
def put (t : Rows κ α) (k : κ) (a : α) : Rows κ α :=
  ⟨t.keys.filter (· ≠ k) ++ [k], fun x => if x = k then some a else t.get x, by
    intro x
    simp only [List.mem_append, List.mem_filter, List.mem_singleton, t.mem_keys x]
    by_cases hx : x = k <;> simp [hx]⟩

/-- `UPDATE ... WHERE key = k`. -/
def modify (t : Rows κ α) (k : κ) (f : α → α) : Rows κ α :=
  ⟨t.keys, fun x => if x = k then (t.get x).map f else t.get x, by
    intro x
    rw [t.mem_keys x]
    by_cases hx : x = k <;> simp [hx]⟩

/-- Every row, with its key. -/
def all (t : Rows κ α) : List (κ × α) := t.keys.filterMap (fun k => (t.get k).map (fun a => (k, a)))

omit [DecidableEq κ] in
@[simp] theorem get_empty : (empty : Rows κ α).get k = none := rfl

omit [DecidableEq κ] in
@[simp] theorem mem_all : (k, a) ∈ t.all ↔ t.get k = some a := by
  simp only [all, List.mem_filterMap, Option.map_eq_some_iff, Prod.mk.injEq]
  constructor
  · rintro ⟨_, -, _, h, rfl, rfl⟩
    exact h
  · intro h
    exact ⟨k, (t.mem_keys k).mpr (by rw [h]; rfl), a, h, rfl, rfl⟩

theorem get_put : (t.put k a).get x = if x = k then some a else t.get x := rfl

theorem get_modify : (t.modify k f).get x = if x = k then (t.get x).map f else t.get x := rfl

theorem get_modify_eq_some : (t.modify k f).get x = some b ↔
      (x = k ∧ ∃ a, t.get k = some a ∧ b = f a) ∨ (x ≠ k ∧ t.get x = some b) := by
  rw [get_modify]
  split
  · rename_i hx
    subst hx
    simp only [Option.map_eq_some_iff, true_and, ne_eq, not_true_eq_false, false_and, or_false,
      eq_comm (a := b)]
  · rename_i hx
    simp [hx]

theorem modify_modify {g : α → α} : (t.modify k f).modify k g = t.modify k (fun a => g (f a)) := by
  unfold modify
  congr 1
  funext x
  by_cases hx : x = k <;> simp [hx, Function.comp_def]

/-- Only the row under the key matters to an update. -/
theorem modify_congr {g : α → α} (h : t.get k = some a) (hfg : f a = g a) :
    t.modify k f = t.modify k g := by
  unfold modify
  congr 1
  funext x
  by_cases hx : x = k
  · subst hx
    simp [h, hfg]
  · simp [hx]

theorem modify_id : t.modify k (fun a => a) = t := by
  unfold modify
  congr 1
  funext x
  simp

/-- What a successful insertion says. -/
theorem insert_eq_some (h : t.insert k a = some u) :
    t.get k = none ∧ ∀ x, u.get x = if x = k then some a else t.get x := by
  unfold insert at h
  split at h
  · cases h
  rename_i hnone
  cases h
  exact ⟨Option.not_isSome_iff_eq_none.mp hnone, fun _ => rfl⟩

theorem get_insert_eq_some (h : t.insert k a = some u) :
    u.get x = some b ↔ (x = k ∧ b = a) ∨ (x ≠ k ∧ t.get x = some b) := by
  rw [(insert_eq_some h).2 x]
  split
  · rename_i hx
    simp [hx, eq_comm]
  · rename_i hx
    simp [hx]

end Rows
