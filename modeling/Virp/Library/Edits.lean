import Virp.Library.Wire

/-! # Strings that were tampered with

One element changed, something added at the end, something cut off the end; and what a change of
one element does to a text with a tag inside it: either the text or the tag changes, not both.
-/
namespace Virp.Wire

open List

variable {α : Type*} {a b c l l' : List α}

/-- One element is another. -/
def Altered (l l' : List α) : Prop := ∃ i x, l' = l.set i x ∧ l' ≠ l

/-- Altered, extended or truncated. -/
inductive Edited (l : List α) : List α → Prop
  | alter {l' : List α} : Altered l l' → Edited l l'
  | extend {q : List α} : q ≠ [] → Edited l (l ++ q)
  | truncate {n : Nat} : n < l.length → Edited l (l.take n)

theorem Altered.ne (h : Altered l l') : l' ≠ l := h.choose_spec.choose_spec.2

theorem Altered.length_eq (h : Altered l l') : l'.length = l.length := by
  obtain ⟨i, x, rfl, -⟩ := h
  exact length_set

theorem Altered.append_right (h : Altered a c) (b : List α) : Altered (a ++ b) (c ++ b) := by
  obtain ⟨i, x, rfl, hne⟩ := h
  have hi : i < a.length := by
    by_contra hi
    exact hne (set_eq_of_length_le (Nat.not_lt.mp hi))
  refine ⟨i, x, ?_, fun heq => hne (append_cancel_right heq)⟩
  rw [set_append, if_pos hi]

theorem Altered.append_left (h : Altered b c) (a : List α) : Altered (a ++ b) (a ++ c) := by
  obtain ⟨i, x, rfl, hne⟩ := h
  refine ⟨a.length + i, x, ?_, fun heq => hne (append_cancel_left heq)⟩
  rw [set_append, if_neg (by omega), Nat.add_sub_cancel_left]

/-- A change of a whole is a change of one of its two parts. -/
theorem altered_append (h : Altered (a ++ b) l) :
    (∃ c, Altered a c ∧ l = c ++ b) ∨ (∃ c, Altered b c ∧ l = a ++ c) := by
  obtain ⟨i, x, rfl, hne⟩ := h
  rw [set_append] at hne ⊢
  by_cases hi : i < a.length
  · rw [if_pos hi] at hne ⊢
    exact .inl ⟨_, ⟨i, x, rfl, fun heq => hne (by rw [heq])⟩, rfl⟩
  · rw [if_neg hi] at hne ⊢
    exact .inr ⟨_, ⟨_, x, rfl, fun heq => hne (by rw [heq])⟩, rfl⟩

/-- What is not an alteration changes the length and leaves alone what is in front. -/
theorem Edited.altered_or (h : Edited l l') : Altered l l' ∨
      (l'.length ≠ l.length ∧ ∀ n ≤ l.length, n ≤ l'.length → l'.take n = l.take n) := by
  cases h with
  | alter h => exact .inl h
  | @extend q hq =>
    refine .inr ⟨?_, fun n hn _ => take_append_of_le_length hn⟩
    have := length_pos_iff.mpr hq
    rw [length_append]
    omega
  | @truncate k hk =>
    have hlen : (l.take k).length = k := by rw [length_take, Nat.min_eq_left (by omega)]
    refine .inr ⟨by omega, fun n _ hn => ?_⟩
    rw [take_take, Nat.min_eq_left (by omega)]

/-- A field is read from the bytes up to its end. -/
theorem slice_take {off n k : Nat} (h : off + n ≤ k) (l : List α) :
    slice off n (l.take k) = slice off n l := by
  rw [slice, slice, drop_take, take_take, Nat.min_eq_left (by omega)]

/-- The text around a tag of `n` elements at an offset. -/
def around (off n : Nat) (l : List α) : List α := l.take off ++ l.drop (off + n)

theorem around_slice (off n : Nat) (l : List α) :
    l = l.take off ++ (slice off n l ++ l.drop (off + n)) := by
  rw [slice, ← drop_drop, take_append_drop, take_append_drop]

theorem around_append {off n : Nat} (ha : a.length = off) (hb : b.length = n) :
    around off n (a ++ (b ++ c)) = a ++ c := by
  rw [around, take_left' ha, ← append_assoc, drop_left' (by rw [length_append, ha, hb])]

/-- **The text or the tag.** -/
theorem Altered.around_or (h : Altered l l') (off n : Nat) (hlen : off + n ≤ l.length) :
    (Altered (around off n l) (around off n l') ∧ slice off n l' = slice off n l) ∨
      (around off n l' = around off n l ∧ Altered (slice off n l) (slice off n l')) := by
  have ha : (l.take off).length = off := by
    rw [length_take, Nat.min_eq_left (by omega)]
  have hb : (slice off n l).length = n := by
    rw [slice, length_take, length_drop, Nat.min_eq_left (by omega)]
  have hparts := h
  rw [around_slice off n l] at hparts
  rcases altered_append hparts with ⟨a', haa, rfl⟩ | ⟨r, hr, rfl⟩
  · have ha' : a'.length = off := by rw [haa.length_eq, ha]
    refine .inl ⟨?_, ?_⟩
    · rw [around_append ha' hb]
      exact haa.append_right _
    · rw [slice_append (Nat.le_of_eq ha'), ha', Nat.sub_self, slice_zero hb]
  rcases altered_append hr with ⟨b', hbb, rfl⟩ | ⟨c', hcc, rfl⟩
  · have hb' : b'.length = n := by rw [hbb.length_eq, hb]
    refine .inr ⟨by rw [around_append ha hb']; rfl, ?_⟩
    rw [slice_append (Nat.le_of_eq ha), ha, Nat.sub_self, slice_zero hb']
    exact hbb
  · refine .inl ⟨?_, ?_⟩
    · rw [around_append ha hb]
      exact hcc.append_left _
    · rw [slice_append (Nat.le_of_eq ha), ha, Nat.sub_self, slice_zero hb]

end Virp.Wire
