import Mathlib.Algebra.GroupWithZero.Nat
import Mathlib.Data.List.Basic
import Mathlib.Data.List.Induction

/-! # Fields at fixed places

Numbers as bytes, most significant first, and the fields of a layout: what was put together
from fields of known lengths is read back by offset and length.
-/
namespace Virp.Wire

open List

/-! ## Numbers -/

/-- The last `k` bytes of a number, most significant first. -/
def be : Nat → Nat → List UInt8
  | 0, _ => []
  | k + 1, n => be k (n / 256) ++ [n.toUInt8]

variable (l : List UInt8)

/-- The number some bytes spell, most significant first. -/
def beValue : Nat := l.foldl (fun n b => n * 256 + b.toNat) 0

/-- The number some bytes spell, least significant first. -/
def leValue : Nat := beValue l.reverse

@[simp] theorem length_be (k n : Nat) : (be k n).length = k := by
  induction k generalizing n with
  | zero => rfl
  | succ k ih => rw [be, length_append, ih, length_singleton]

theorem beValue_concat (b : UInt8) : beValue (l ++ [b]) = beValue l * 256 + b.toNat := by
  rw [beValue, foldl_append]
  rfl

theorem beValue_lt : beValue l < 256 ^ l.length := by
  induction l using reverseRecOn with
  | nil => exact Nat.one_pos
  | append_singleton l b ih =>
    have hb := b.toNat_lt
    rw [beValue_concat, length_append, length_singleton, Nat.pow_succ]
    omega

theorem beValue_be {k n : Nat} (h : n < 256 ^ k) : beValue (be k n) = n := by
  induction k generalizing n with
  | zero => exact (Nat.lt_one_iff.mp h).symm
  | succ k ih =>
    have hdiv : n / 256 < 256 ^ k := by
      rw [Nat.div_lt_iff_lt_mul (by decide)]
      exact h
    rw [be, beValue_concat, ih hdiv, Nat.toUInt8, UInt8.toNat_ofNat']
    omega

theorem be_beValue : be l.length (beValue l) = l := by
  induction l using reverseRecOn with
  | nil => rfl
  | append_singleton l b ih =>
    have hb := b.toNat_lt
    have hlast : (beValue l * 256 + b.toNat).toUInt8 = b := by
      rw [← UInt8.toNat_inj, Nat.toUInt8, UInt8.toNat_ofNat']
      omega
    rw [length_append, length_singleton, be, beValue_concat, hlast,
      show (beValue l * 256 + b.toNat) / 256 = beValue l by omega, ih]

/-- Read the wrong way round, a number comes out right exactly if its bytes are a palindrome. -/
theorem leValue_be_eq_iff {k n : Nat} (h : n < 256 ^ k) :
    leValue (be k n) = n ↔ (be k n).reverse = be k n := by
  constructor
  · intro hle
    have hback := be_beValue (be k n).reverse
    rw [length_reverse, length_be] at hback
    rw [← hback]
    exact congrArg (be k) hle
  · intro hrev
    rw [leValue, hrev, beValue_be h]

/-! ## Fields -/

section
variable {α : Type*} {off n : Nat} {f rest : List α}

/-- `n` elements from an offset on. -/
def slice (off n : Nat) (l : List α) : List α := (l.drop off).take n

theorem slice_zero (h : f.length = n) : slice 0 n (f ++ rest) = f := by
  rw [slice, drop_zero, take_left' h]

theorem slice_append (h : f.length ≤ off) :
    slice off n (f ++ rest) = slice (off - f.length) n rest := by
  rw [slice, drop_append, drop_eq_nil_of_le h, nil_append, slice]

@[simp] theorem slice_nil_length (l : List α) : slice off 0 l = [] := take_zero ..

@[simp] theorem slice_cons_zero (x : α) (l : List α) :
    slice 0 (n + 1) (x :: l) = x :: slice 0 n l := rfl

@[simp] theorem slice_cons_succ (x : α) (l : List α) :
    slice (off + 1) n (x :: l) = slice off n l := rfl

theorem slice_self (h : f.length = n) : slice 0 n f = f := by
  rw [slice, drop_zero, take_of_length_le (Nat.le_of_eq h)]

end

/-- The byte at an offset. -/
def byteAt (off : Nat) (l : List UInt8) : UInt8 := (slice off 1 l).headD 0

/-- The 16-bit number at an offset. -/
def u16At (off : Nat) (l : List UInt8) : UInt16 := .ofNat (beValue (slice off 2 l))

/-- The 32-bit number at an offset. -/
def u32At (off : Nat) (l : List UInt8) : UInt32 := .ofNat (beValue (slice off 4 l))

/-- The 64-bit number at an offset. -/
def u64At (off : Nat) (l : List UInt8) : UInt64 := .ofNat (beValue (slice off 8 l))

variable (x : UInt16)

/-- `htons`. -/
def be16 : List UInt8 := be 2 x.toNat

/-- `htonl`. -/
def be32 (x : UInt32) : List UInt8 := be 4 x.toNat

/-- `htonll`. -/
def be64 (x : UInt64) : List UInt8 := be 8 x.toNat

@[simp] theorem length_be16 : (be16 x).length = 2 := length_be ..

@[simp] theorem length_be32 (x : UInt32) : (be32 x).length = 4 := length_be ..

@[simp] theorem length_be64 (x : UInt64) : (be64 x).length = 8 := length_be ..

@[simp] theorem ofNat_beValue_be16 : UInt16.ofNat (beValue (be16 x)) = x := by
  rw [be16, beValue_be x.toNat_lt, UInt16.ofNat_toNat]

@[simp] theorem ofNat_beValue_be32 (x : UInt32) : UInt32.ofNat (beValue (be32 x)) = x := by
  rw [be32, beValue_be x.toNat_lt, UInt32.ofNat_toNat]

@[simp] theorem ofNat_beValue_be64 (x : UInt64) : UInt64.ofNat (beValue (be64 x)) = x := by
  rw [be64, beValue_be x.toNat_lt, UInt64.ofNat_toNat]

/-! ## Items behind their lengths -/

/-- An item behind its length in four bytes. -/
def sized (x : List UInt8) : List UInt8 := be 4 x.length ++ x

/-- Items behind their number. -/
def frame (xs : List (List UInt8)) : List UInt8 := be 4 xs.length ++ xs.flatMap sized

/-- An item, and what follows it. -/
def readSized : Option (List UInt8 × List UInt8) :=
  let n := beValue (l.take 4)
  if l.length < 4 + n then none else some ((l.drop 4).take n, l.drop (4 + n))

/-- So many items and nothing behind them. -/
def readItems : Nat → List UInt8 → Option (List (List UInt8))
  | 0, l => if l = [] then some [] else none
  | k + 1, l =>
    match readSized l with
    | none => none
    | some (x, rest) => (readItems k rest).map (x :: ·)

/-- The items of a frame. -/
def readFrame : Option (List (List UInt8)) :=
  if l.length < 4 then none else readItems (beValue (l.take 4)) (l.drop 4)

theorem length_sized (x : List UInt8) : (sized x).length = 4 + x.length := by
  rw [sized, length_append, length_be]

theorem readSized_sized {x : List UInt8} (h : x.length < 256 ^ 4) (rest : List UInt8) :
    readSized (sized x ++ rest) = some (x, rest) := by
  have hlen : beValue ((sized x ++ rest).take 4) = x.length := by
    rw [sized, append_assoc, take_left' (length_be ..), beValue_be h]
  have hfits : ¬ (sized x ++ rest).length < 4 + x.length := by
    rw [length_append, length_sized]
    omega
  have hitem : ((sized x ++ rest).drop 4).take x.length = x := by
    rw [sized, append_assoc, drop_left' (length_be ..), take_left]
  have hrest : (sized x ++ rest).drop (4 + x.length) = rest := drop_left' (length_sized x)
  rw [readSized, hlen, if_neg hfits, hitem, hrest]

theorem readItems_flatMap {xs : List (List UInt8)} (h : ∀ x ∈ xs, x.length < 256 ^ 4) :
    readItems xs.length (xs.flatMap sized) = some xs := by
  induction xs with
  | nil => rfl
  | cons x xs ih =>
    obtain ⟨hx, hxs⟩ := forall_mem_cons.mp h
    rw [flatMap_cons, length_cons, readItems, readSized_sized hx]
    simp only [ih hxs, Option.map_some]

/-- **A frame is read back.** -/
theorem readFrame_frame {xs : List (List UInt8)} (hcount : xs.length < 256 ^ 4)
    (h : ∀ x ∈ xs, x.length < 256 ^ 4) : readFrame (frame xs) = some xs := by
  have hlen : ¬ (frame xs).length < 4 := by
    rw [frame, length_append, length_be]
    omega
  rw [readFrame, if_neg hlen, frame, take_left' (length_be ..), beValue_be hcount,
    drop_left' (length_be ..), readItems_flatMap h]

end Virp.Wire
