import Mathlib.Algebra.Group.Int.Defs
import Mathlib.Algebra.GroupWithZero.Nat
import Mathlib.Data.List.Basic
import Mathlib.Data.List.TakeWhile

/-! # Bytes, C strings and fixed-size fields

The daemon's strings are C strings: bytes up to a terminating zero, copied into
fixed-size fields by `snprintf`, which silently keeps what fits.  A value read
from the database is a byte string that may be longer than its field and may hold
zero bytes of its own; the copy then keeps a proper part of it.

`canonicalStringOk` and `artifactHashOk` are the two checks every appended string
passes, and `hexEncode` is how digests, MACs and signatures are written down.
-/
namespace Virp

open List

abbrev Bytes := List UInt8

/-- Found by its name where a definition looks for a string in a list. -/
instance lawfulBEqBytes : LawfulBEq (List UInt8) := inferInstance

/-- The bytes of a literal. -/
def text (s : String) : Bytes := s.toUTF8.data.toList

/-- `uint8_t[n]`. -/
structure Blob (n : Nat) where
  bytes : Bytes
  length_eq : bytes.length = n
deriving DecidableEq

/-- `n` bytes of one value. -/
def Blob.fill (n : Nat) (b : UInt8) : Blob n := ⟨List.replicate n b, List.length_replicate⟩

/-- A `uint64_t` counter short of its last value. -/
theorem toNat_add_one {t : UInt64} (h : t.toNat + 1 < 2 ^ 64) : (t + 1).toNat = t.toNat + 1 := by
  rw [UInt64.toNat_add, UInt64.toNat_one]
  exact Nat.mod_eq_of_lt h

/-! ## Copying into a field -/

/-- What a C function sees of a byte string: everything before the first zero. -/
def cstr (b : Bytes) : Bytes := b.takeWhile (· != 0)

/-- `snprintf(field, cap, "%s", b)`: the field's new contents. -/
def snprintfS (cap : Nat) (b : Bytes) : Bytes := (cstr b).take (cap - 1)

/-- The bytes a hash or MAC reads when it is given a local buffer of `cap` bytes
and, as the length, the number `snprintf` returned for `t`.  That number is the
length of `t` even where the buffer was too small for it: then the read runs past
the buffer's terminator into whatever the stack holds there. -/
def bufferBytes (cap : Nat) (t stack : Bytes) : Bytes :=
  if t.length < cap then t else (t.take (cap - 1) ++ 0 :: stack).take t.length

variable {b : Bytes} {cap : Nat}

theorem cstr_eq_self (h : 0 ∉ b) : cstr b = b := by
  refine takeWhile_eq_self_iff.mpr ?_
  intro x hx
  simp only [bne_iff_ne, ne_eq]
  exact fun he => h (he ▸ hx)

theorem zero_notMem_cstr (b : Bytes) : 0 ∉ cstr b := by
  intro h
  have := mem_takeWhile_imp h
  simp at this

theorem zero_notMem_snprintfS (cap : Nat) (b : Bytes) : 0 ∉ snprintfS cap b :=
  fun h => zero_notMem_cstr b (mem_of_mem_take h)

theorem length_snprintfS_le (cap : Nat) (b : Bytes) : (snprintfS cap b).length ≤ cap - 1 :=
  length_take_le _ _

variable {x : UInt8} {t stack s : Bytes} {n : Nat}

theorem mem_of_mem_snprintfS (h : x ∈ snprintfS cap b) : x ∈ b :=
  (List.takeWhile_prefix _).subset (mem_of_mem_take h)

/-- A string that fits its field is stored as it is. -/
theorem snprintfS_eq_self (h0 : 0 ∉ b) (hlen : b.length < cap) : snprintfS cap b = b := by
  rw [snprintfS, cstr_eq_self h0]
  exact take_of_length_le (by omega)

@[simp] theorem snprintfS_snprintfS (cap : Nat) (b : Bytes) :
    snprintfS cap (snprintfS cap b) = snprintfS cap b := by
  rw [snprintfS, cstr_eq_self (zero_notMem_snprintfS cap b)]
  exact take_of_length_le (length_snprintfS_le cap b)

/-- The copy is lossless exactly on the strings that fit. -/
theorem snprintfS_eq_self_iff (hcap : 0 < cap) (b : Bytes) :
    snprintfS cap b = b ↔ 0 ∉ b ∧ b.length < cap := by
  constructor
  · intro h
    have hlen := length_snprintfS_le cap b
    rw [h] at hlen
    exact ⟨h ▸ zero_notMem_snprintfS cap b, by omega⟩
  · rintro ⟨h0, hlen⟩
    exact snprintfS_eq_self h0 hlen

theorem bufferBytes_eq_self (h : t.length < cap) : bufferBytes cap t stack = t := if_pos h

/-- What fits is read as it is. -/
theorem getElem?_bufferBytes {i : Nat} (h : i < t.length) (hc : i < cap - 1) (stack : Bytes) :
    (bufferBytes cap t stack)[i]? = t[i]? := by
  unfold bufferBytes
  split
  · rfl
  · rw [getElem?_take_of_lt h, getElem?_append_left (by simp; omega), getElem?_take_of_lt hc]

theorem le_length_bufferBytes (cap : Nat) (t stack : Bytes) :
    min t.length cap ≤ (bufferBytes cap t stack).length := by
  unfold bufferBytes
  split
  · omega
  · simp only [length_take, length_append, length_cons]
    omega

/-- A buffer that was too small leaves its terminator inside the bytes read. -/
theorem zero_mem_bufferBytes (hcap : 0 < cap) (h : ¬ t.length < cap) :
    (0 : UInt8) ∈ bufferBytes cap t stack := by
  rw [bufferBytes, if_neg h]
  have hpre : (t.take (cap - 1) ++ [0]) <+: (t.take (cap - 1) ++ 0 :: stack).take t.length := by
    refine prefix_take_iff.mpr ⟨⟨stack, by simp⟩, ?_⟩
    simp only [length_append, length_take, length_cons, length_nil]
    omega
  exact hpre.subset (by simp)

/-- A UTF-8 continuation byte. -/
def isCont (b : UInt8) : Bool := b &&& 0xC0 == 0x80

/-- The code point checks of RFC 3629, for a character with `need` continuation
bytes: no over-long encoding, nothing above U+10FFFF, no surrogate. -/
def codepointOk (need cp : Nat) : Bool :=
  !(need == 1 && cp < 0x80) && !(need == 2 && cp < 0x800) && !(need == 3 && cp < 0x10000) &&
    !(0x10FFFF < cp) && !(0xD800 ≤ cp && cp ≤ 0xDFFF)

/-- `cp << 6 | (b & 0x3F)`. -/
def pushCont (cp : Nat) (b : UInt8) : Nat := cp * 64 + b.toNat % 64

/-- `virp_chain_canonical_string_ok`: no quote, backslash or control byte, and
well-formed UTF-8. -/
def canonicalStringOk : Bytes → Bool
  | [] => true
  | c :: p =>
    if c == 0x22 || c == 0x5C || c < 0x20 || c == 0x7F then false
    else if c < 0x80 then canonicalStringOk p
    else if c &&& 0xE0 == 0xC0 then
      match p with
      | p1 :: rest =>
        isCont p1 && codepointOk 1 (pushCont (c.toNat % 32) p1) && canonicalStringOk rest
      | [] => false
    else if c &&& 0xF0 == 0xE0 then
      match p with
      | p1 :: p2 :: rest =>
        isCont p1 && isCont p2 &&
          codepointOk 2 (pushCont (pushCont (c.toNat % 16) p1) p2) && canonicalStringOk rest
      | _ => false
    else if c &&& 0xF8 == 0xF0 then
      match p with
      | p1 :: p2 :: p3 :: rest =>
        isCont p1 && isCont p2 && isCont p3 &&
          codepointOk 3 (pushCont (pushCont (pushCont (c.toNat % 8) p1) p2) p3) &&
          canonicalStringOk rest
      | _ => false
    else false

/-- A byte that can neither end a C string nor close a JSON string. -/
def Plain (b : UInt8) : Prop := b ≠ 0x22 ∧ b ≠ 0
deriving Decidable

theorem plain_of_isCont {b : UInt8} (h : isCont b = true) : Plain b := by
  constructor <;> rintro rfl <;> exact absurd h (by decide)

theorem plain_of_first {c : UInt8}
    (h : ¬ (c == 0x22 || c == 0x5C || c < 0x20 || c == 0x7F) = true) : Plain c := by
  constructor <;> rintro rfl <;> exact h (by decide)

/-- **An accepted string is plain**: pasted between quotes it ends at the closing
quote, and stored in a C string it ends at the terminator. -/
theorem plain_of_canonicalStringOk (h : canonicalStringOk s = true) : ∀ b ∈ s, Plain b := by
  fun_induction canonicalStringOk s with
  | case1 => simp
  | case3 c p hbad hasc ih => exact forall_mem_cons.mpr ⟨plain_of_first hbad, ih h⟩
  | case4 c hbad hasc h2 p1 rest ih =>
    simp only [Bool.and_eq_true] at h
    simp only [forall_mem_cons]
    exact ⟨plain_of_first hbad, plain_of_isCont h.1.1, ih h.2⟩
  | case6 c hbad hasc h2 h3 p1 p2 rest ih =>
    simp only [Bool.and_eq_true] at h
    simp only [forall_mem_cons]
    exact ⟨plain_of_first hbad, plain_of_isCont h.1.1.1, plain_of_isCont h.1.1.2, ih h.2⟩
  | case8 c hbad hasc h2 h3 h4 p1 p2 p3 rest ih =>
    simp only [Bool.and_eq_true] at h
    simp only [forall_mem_cons]
    exact ⟨plain_of_first hbad, plain_of_isCont h.1.1.1.1, plain_of_isCont h.1.1.1.2,
      plain_of_isCont h.1.1.2, ih h.2⟩
  | _ => cases h

/-! ## Hexadecimal -/

def isLowerHex (b : UInt8) : Bool := (0x30 ≤ b && b ≤ 0x39) || (0x61 ≤ b && b ≤ 0x66)

/-- `virp_chain_artifact_hash_ok`: 32 bytes in lowercase hex. -/
def artifactHashOk (s : Bytes) : Bool := s.length == 64 && s.all isLowerHex

/-- The lowercase digit of a nibble. -/
def hexDigit (n : Nat) : UInt8 := if n < 10 then (48 + n).toUInt8 else (87 + n).toUInt8

/-- `%02x` of every byte. -/
def hexEncode (b : Bytes) : Bytes :=
  b.flatMap (fun x => [hexDigit (x.toNat / 16), hexDigit (x.toNat % 16)])

theorem plain_of_isLowerHex {b : UInt8} (h : isLowerHex b = true) : Plain b := by
  constructor <;> rintro rfl <;> exact absurd h (by decide)

theorem plain_of_artifactHashOk (h : artifactHashOk s = true) : ∀ b ∈ s, Plain b := by
  intro b hb
  simp only [artifactHashOk, Bool.and_eq_true, all_eq_true] at h
  exact plain_of_isLowerHex (h.2 b hb)

theorem isLowerHex_hexDigit (h : n < 16) : isLowerHex (hexDigit n) = true := by
  have : ∀ k : Fin 16, isLowerHex (hexDigit k) = true := by decide
  exact this ⟨n, h⟩

theorem hexDigit_inj {m : Nat} (hm : m < 16) (hn : n < 16) (h : hexDigit m = hexDigit n) :
    m = n := by
  have : ∀ a b : Fin 16, hexDigit a = hexDigit b → a = b := by decide
  exact congrArg Fin.val (this ⟨m, hm⟩ ⟨n, hn⟩ h)

@[simp] theorem hexEncode_nil : hexEncode [] = [] := rfl

@[simp] theorem hexEncode_cons (x : UInt8) (b : Bytes) :
    hexEncode (x :: b) = hexDigit (x.toNat / 16) :: hexDigit (x.toNat % 16) :: hexEncode b := rfl

@[simp] theorem length_hexEncode (b : Bytes) : (hexEncode b).length = 2 * b.length := by
  induction b with
  | nil => rfl
  | cons x b ih => simp only [hexEncode_cons, length_cons, ih]; omega

theorem isLowerHex_of_mem_hexEncode (h : x ∈ hexEncode b) : isLowerHex x = true := by
  induction b with
  | nil => simp at h
  | cons y b ih =>
    have hy : y.toNat < 256 := y.toNat_lt
    simp only [hexEncode_cons, mem_cons] at h
    rcases h with rfl | rfl | h
    · exact isLowerHex_hexDigit (by omega)
    · exact isLowerHex_hexDigit (by omega)
    · exact ih h

theorem hexEncode_injective : Function.Injective hexEncode := by
  intro a
  induction a with
  | nil =>
    intro b h
    cases b with
    | nil => rfl
    | cons y b => simp at h
  | cons x a ih =>
    intro b h
    cases b with
    | nil => simp at h
    | cons y b =>
      have hx : x.toNat < 256 := x.toNat_lt
      have hy : y.toNat < 256 := y.toNat_lt
      simp only [hexEncode_cons, cons.injEq] at h
      obtain ⟨h1, h2, h3⟩ := h
      have hhi := hexDigit_inj (by omega) (by omega) h1
      have hlo := hexDigit_inj (by omega) (by omega) h2
      rw [ih h3, UInt8.toNat_inj.mp (show x.toNat = y.toNat by omega)]

end Virp
