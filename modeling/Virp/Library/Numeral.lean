import Mathlib.Algebra.GroupWithZero.Nat
import Mathlib.Data.List.Basic

/-! # Numerals in a base up to sixteen

What `printf` writes for an unsigned integer in base ten or sixteen and what `scanf`
reads: digits, as many as there are.  A numeral that is followed by something else than
a digit is read back as its number.
-/
namespace Numeral

open List

/-- The value of a digit, of either case. -/
def digitValue (c : UInt8) : Option Nat :=
  if 48 ≤ c ∧ c ≤ 57 then some (c.toNat - 48)
  else if 97 ≤ c ∧ c ≤ 102 then some (c.toNat - 87)
  else if 65 ≤ c ∧ c ≤ 70 then some (c.toNat - 55)
  else none

/-- A digit of base `b`. -/
def isDigitOf (b : Nat) (c : UInt8) : Bool := (digitValue c).any (· < b)

/-- The number a list of digits stands for. -/
def value (b : Nat) (s : List UInt8) : Nat := s.foldl (fun n c => n * b + (digitValue c).getD 0) 0

/-- The numeral of a number. -/
def numeral (b n : Nat) : List UInt8 := (Nat.toDigits b n).map (fun c => c.toNat.toUInt8)

/-- The digits at the front, as a number, and what follows them. -/
def read (b : Nat) (s : List UInt8) : Nat × List UInt8 :=
  (value b (s.takeWhile (isDigitOf b)), s.dropWhile (isDigitOf b))

theorem digitValue_digitChar {d : Nat} (h : d < 16) :
    digitValue (Nat.digitChar d).toNat.toUInt8 = some d := by
  have : ∀ d : Fin 16, digitValue (Nat.digitChar d).toNat.toUInt8 = some (d : Nat) := by decide
  exact this ⟨d, h⟩

theorem value_concat (b : Nat) (s : List UInt8) (c : UInt8) :
    value b (s ++ [c]) = value b s * b + (digitValue c).getD 0 := by
  simp [value]

variable {b : Nat}

section
variable (hb : 1 < b)
include hb

/-- A numeral is a digit, or a numeral followed by a digit. -/
theorem numeral_cases (n : Nat) : numeral b n = (if n < b then [] else numeral b (n / b)) ++
      [(Nat.digitChar (n % b)).toNat.toUInt8] := by
  unfold numeral
  split
  · rename_i h
    rw [Nat.toDigits_of_lt_base h, Nat.mod_eq_of_lt h]
    rfl
  · rename_i h
    rw [Nat.toDigits_of_base_le hb (Nat.le_of_not_lt h), map_append]
    rfl

/-- **A numeral stands for its number.** -/
theorem value_numeral (h16 : b ≤ 16) (n : Nat) : value b (numeral b n) = n := by
  induction n using Nat.strongRecOn with
  | ind n ih =>
    have hmod : n % b < b := Nat.mod_lt _ (by omega)
    rw [numeral_cases hb, value_concat, digitValue_digitChar (by omega), Option.getD_some]
    split
    · rename_i h
      simp [value, Nat.mod_eq_of_lt h]
    · rename_i h
      rw [ih (n / b) (Nat.div_lt_self (by omega) hb), Nat.mul_comm]
      exact Nat.div_add_mod n b

theorem isDigitOf_of_mem_numeral (h16 : b ≤ 16) {n : Nat} {c : UInt8} (h : c ∈ numeral b n) :
    isDigitOf b c = true := by
  induction n using Nat.strongRecOn with
  | ind n ih =>
    have hmod : n % b < b := Nat.mod_lt _ (by omega)
    rw [numeral_cases hb] at h
    rcases mem_append.mp h with h | h
    · split at h
      · cases h
      · exact ih (n / b) (Nat.div_lt_self (by omega) hb) h
    · rw [mem_singleton.mp h, isDigitOf, digitValue_digitChar (by omega)]
      simpa using hmod

theorem numeral_ne_nil (n : Nat) : numeral b n ≠ [] := by
  rw [numeral_cases hb]
  simp

theorem length_numeral_le {n k : Nat} (hk : 0 < k) (h : n < b ^ k) : (numeral b n).length ≤ k := by
  rw [numeral, length_map]
  exact (Nat.length_toDigits_le_iff hb hk).mpr h

/-- **What is written is read back**, up to the first symbol that is not a digit. -/
theorem read_numeral_append (h16 : b ≤ 16) (n : Nat) {rest : List UInt8}
    (hrest : ∀ c ∈ rest.head?, isDigitOf b c = false) :
    read b (numeral b n ++ rest) = (n, rest) := by
  have hstop : rest.takeWhile (isDigitOf b) = [] ∧ rest.dropWhile (isDigitOf b) = rest := by
    cases rest with
    | nil => exact ⟨rfl, rfl⟩
    | cons c rest => simp [hrest c rfl]
  have hdigits : ∀ c ∈ numeral b n, isDigitOf b c = true := fun c => isDigitOf_of_mem_numeral hb h16
  rw [read, takeWhile_append_of_pos hdigits, dropWhile_append_of_pos hdigits, hstop.1,
    hstop.2, append_nil, value_numeral hb h16]

end

end Numeral
