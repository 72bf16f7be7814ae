import Mathlib.Algebra.GroupWithZero.Nat
import Mathlib.Data.List.Basic
import Mathlib.Data.List.Induction

/-! # Decimal numerals as bytes

What `printf` writes for an unsigned and for a signed integer.  A numeral is made
of digits, with a leading minus sign for a negative number, so it holds no quote,
comma, brace or zero byte; and it determines its number.
-/
namespace Decimal

open List

/-- `%llu`, `%u`. -/
def unsigned (n : Nat) : List UInt8 := (Nat.toDigits 10 n).map (fun c => c.toNat.toUInt8)

/-- `%lld`. -/
def signed (i : Int) : List UInt8 :=
  if i < 0 then 45 :: unsigned i.natAbs else unsigned i.natAbs

variable {n k : Nat} {b : UInt8} {i : Int}

theorem digit_range {c : Char} (h : c ∈ Nat.toDigits 10 n) : 48 ≤ c.toNat ∧ c.toNat ≤ 57 :=
  Char.isDigit_iff_toNat.mp (Nat.isDigit_of_mem_toDigits (by decide) (by decide) h)

theorem toNat_digit {c : Char} (h : c ∈ Nat.toDigits 10 n) : c.toNat.toUInt8.toNat = c.toNat := by
  have hr := digit_range h
  simp only [Nat.toUInt8, UInt8.toNat_ofNat']
  omega

theorem mem_unsigned (h : b ∈ unsigned n) : 48 ≤ b.toNat ∧ b.toNat ≤ 57 := by
  obtain ⟨c, hc, rfl⟩ := mem_map.mp h
  rw [toNat_digit hc]
  exact digit_range hc

/-- The digit characters are recovered from their bytes. -/
theorem map_ofNat_unsigned (n : Nat) :
    (unsigned n).map (fun b => Char.ofNat b.toNat) = Nat.toDigits 10 n := by
  rw [unsigned, map_map]
  conv_rhs => rw [← map_id (Nat.toDigits 10 n)]
  refine map_congr_left ?_
  intro c hc
  rw [Function.comp_apply, toNat_digit hc, Char.ofNat_toNat, id]

/-- **A numeral determines its number.** -/
theorem unsigned_injective : Function.Injective unsigned := by
  intro m n h
  have hdigits : Nat.toDigits 10 m = Nat.toDigits 10 n := by
    rw [← map_ofNat_unsigned, ← map_ofNat_unsigned, h]
  rw [← Nat.ofDigitChars_ten_toDigits (n := m), hdigits, Nat.ofDigitChars_ten_toDigits]

theorem mem_signed (h : b ∈ signed i) : b = 45 ∨ 48 ≤ b.toNat ∧ b.toNat ≤ 57 := by
  unfold signed at h
  split at h
  · rcases mem_cons.mp h with hb | hb
    · exact Or.inl hb
    · exact Or.inr (mem_unsigned hb)
  · exact Or.inr (mem_unsigned h)

/-- An unsigned numeral never starts with the minus sign. -/
theorem minus_notMem_unsigned (n : Nat) : 45 ∉ unsigned n := by
  intro h
  have hr := mem_unsigned h
  have : (45 : UInt8).toNat = 45 := rfl
  omega

theorem signed_injective : Function.Injective signed := by
  intro i j h
  unfold signed at h
  split at h <;> split at h
  · have := unsigned_injective (cons.inj h).2
    omega
  · exact absurd (h ▸ mem_cons_self) (minus_notMem_unsigned _)
  · exact absurd (h ▸ mem_cons_self) (minus_notMem_unsigned _)
  · have := unsigned_injective h
    omega

/-- A symbol outside the numerals' alphabet is in no numeral. -/
theorem notMem_signed (hm : b ≠ 45) (hr : b.toNat < 48 ∨ 57 < b.toNat) (i : Int) :
    b ∉ signed i := by
  intro h
  rcases mem_signed h with h | h
  · exact hm h
  · omega

theorem notMem_unsigned (hr : b.toNat < 48 ∨ 57 < b.toNat) (n : Nat) : b ∉ unsigned n := by
  intro h
  have := mem_unsigned h
  omega

theorem length_unsigned_pos (n : Nat) : 0 < (unsigned n).length := by
  rw [unsigned, length_map]
  exact Nat.length_toDigits_pos

/-- A number below a power of ten has at most that many digits. -/
theorem length_unsigned_le (hk : 0 < k) (h : n < 10 ^ k) : (unsigned n).length ≤ k := by
  rw [unsigned, length_map]
  exact (Nat.length_toDigits_le_iff (by decide) hk).mpr h

theorem length_signed_le (hk : 0 < k) (h : i.natAbs < 10 ^ k) : (signed i).length ≤ k + 1 := by
  have hu := length_unsigned_le hk h
  unfold signed
  split
  · exact Nat.succ_le_succ hu
  · omega

/-- The number a list of digits stands for. -/
def natOf (s : List UInt8) : Nat := s.foldl (fun n c => n * 10 + (c.toNat - 48)) 0

theorem natOf_concat (s : List UInt8) (c : UInt8) :
    natOf (s ++ [c]) = natOf s * 10 + (c.toNat - 48) := by
  simp [natOf]

/-- A numeral is a digit, or a numeral followed by a digit. -/
theorem unsigned_cases (n : Nat) :
    unsigned n = (if n < 10 then [] else unsigned (n / 10)) ++ [(48 + n % 10).toUInt8] := by
  have hdigit : ∀ d : Fin 10, (Nat.digitChar d).toNat.toUInt8 = (48 + (d : Nat)).toUInt8 := by decide
  have hlast := hdigit ⟨n % 10, Nat.mod_lt n (by decide)⟩
  unfold unsigned
  split_ifs with h
  · rw [Nat.toDigits_of_lt_base h, ← hlast]
    simp [Nat.mod_eq_of_lt h]
  · rw [Nat.toDigits_of_base_le (by decide) (Nat.le_of_not_lt h), map_append, ← hlast]
    rfl

/-- The number a numeral stands for is the number it was made from. -/
theorem natOf_unsigned (n : Nat) : natOf (unsigned n) = n := by
  induction n using Nat.strongRecOn with
  | ind n ih =>
    have hdigit : ((48 + n % 10).toUInt8).toNat - 48 = n % 10 := by
      rw [show ((48 + n % 10).toUInt8).toNat = (48 + n % 10) % 256 from rfl]
      omega
    rw [unsigned_cases, natOf_concat, hdigit]
    split_ifs with h
    · change 0 * 10 + n % 10 = n
      omega
    · rw [ih (n / 10) (by omega)]
      omega

/-- **Digits without a leading zero** are the numeral of their number. -/
theorem unsigned_natOf {s : List UInt8} (hdigits : ∀ c ∈ s, 48 ≤ c.toNat ∧ c.toNat ≤ 57)
    (hne : s ≠ []) (hzero : s.head? = some 48 → s.length = 1) : unsigned (natOf s) = s := by
  induction s using reverseRecOn with
  | nil => exact absurd rfl hne
  | append_singleton t c ih =>
    have hc := hdigits c (by simp)
    have hbyte : (48 + (c.toNat - 48)).toUInt8 = c := by
      rw [Nat.add_sub_cancel' hc.1]
      exact UInt8.ofNat_toNat
    rw [natOf_concat, unsigned_cases]
    rcases eq_or_ne t [] with rfl | ht
    · have hlt : natOf [] * 10 + (c.toNat - 48) < 10 := by
        change 0 * 10 + _ < 10
        omega
      rw [if_pos hlt, Nat.mod_eq_of_lt hlt]
      change [(48 + (0 * 10 + (c.toNat - 48))).toUInt8] = _
      rw [Nat.zero_mul, Nat.zero_add, hbyte]
      rfl
    · have hhead : (t ++ [c]).head? = t.head? := head?_append_of_ne_nil _ ht
      have hnz : t.head? ≠ some 48 := by
        intro h
        have := hzero (hhead.trans h)
        rw [length_append, length_singleton] at this
        exact ht (eq_nil_of_length_eq_zero (by omega))
      have hih : unsigned (natOf t) = t :=
        ih (fun x hx => hdigits x (mem_append_left _ hx)) ht fun h => absurd h hnz
      have hpos : natOf t ≠ 0 := by
        intro h
        rw [h] at hih
        exact hnz (hih ▸ rfl)
      rw [if_neg (by omega), show (natOf t * 10 + (c.toNat - 48)) / 10 = natOf t by omega,
        show (natOf t * 10 + (c.toNat - 48)) % 10 = c.toNat - 48 by omega, hih, hbyte]

end Decimal
