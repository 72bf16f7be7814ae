import Virp.CommandHashes
import Virp.Tacacs

/-! # The command hash of the policy compiler

The TACACS+ policy compiler hashes an approved command again, in its own canonical form.  That is
the hash the daemon approved exactly when the text has no blank that only Python knows
(`compilerCommandHash_iff`).
-/
namespace Virp
open Words List

/-- `s.encode("utf-8")`. -/
def encodeUtf8 (s : PyStr) : Bytes := s.flatMap String.utf8EncodeChar

/-- `command_hash` of the compiler. -/
def compilerCommandHash (C : Crypto) (U : PyText) (command : PyStr) : Bytes :=
  C.sha256Hex (encodeUtf8 (canonicalCommand U command))

/-! ## Texts and their bytes -/

variable {U : PyText} {s : PyStr} {c : Char}

/-- An ASCII byte stands for its own character. -/
theorem mem_utf8EncodeChar_iff {a : Char} (ha : a.toNat < 0x80) :
    UInt8.ofNat a.toNat ∈ String.utf8EncodeChar c ↔ a = c := by
  constructor
  · intro h
    refine Char.toNat_inj.mp ?_
    simp only [String.utf8EncodeChar, Char.toNat_val] at h
    split_ifs at h <;>
      simp only [mem_cons, not_mem_nil, or_false, ← UInt8.toNat_inj, UInt8.toNat_ofNat'] at h <;>
      omega
  · rintro rfl
    simp [String.utf8EncodeChar, Nat.le_of_lt_succ ha]

theorem mem_encodeUtf8_iff {a : Char} (ha : a.toNat < 0x80) :
    UInt8.ofNat a.toNat ∈ encodeUtf8 s ↔ a ∈ s := by
  simp [encodeUtf8, mem_flatMap, mem_utf8EncodeChar_iff ha]

theorem encodeUtf8_eq_nil_iff : encodeUtf8 s = [] ↔ s = [] := by
  cases s with
  | nil => simp [encodeUtf8]
  | cons c s =>
    have hpos := c.utf8Size_pos
    rw [← String.length_utf8EncodeChar] at hpos
    simp [encodeUtf8, ne_nil_of_length_pos hpos]

theorem encodeUtf8_injective : Function.Injective encodeUtf8 := by
  intro s t h
  have hbytes : s.utf8Encode = t.utf8Encode := congrArg toByteArray h
  have hdecode := congrArg ByteArray.utf8Decode? hbytes
  rw [utf8Decode?_utf8Encode, utf8Decode?_utf8Encode] at hdecode
  simpa using hdecode

theorem words_encodeUtf8 : words 0x20 (encodeUtf8 s) = (words ' ' s).map encodeUtf8 := by
  have hbyte : ∀ v : PyStr, ' ' ∉ v → 0x20 ∉ encodeUtf8 v :=
    fun v => mt (mem_encodeUtf8_iff (a := ' ') (by decide)).mp
  induction hn : s.length using Nat.strong_induction_on generalizing s with
  | _ n ih =>
    by_cases hd : ' ' ∈ s
    · obtain ⟨v, rest, rfl, hv⟩ := eq_append_cons_of_mem hd
      have happend : encodeUtf8 (v ++ ' ' :: rest) = encodeUtf8 v ++ 0x20 :: encodeUtf8 rest := by
        rw [encodeUtf8, flatMap_append]
        rfl
      rw [happend, words_append_cons (hbyte v hv), words_append_cons hv,
        ih rest.length (by simp at hn; omega) rfl, map_append]
      by_cases hnil : v = [] <;> simp [hnil, encodeUtf8_eq_nil_iff]
    · rw [words_of_notMem (hbyte s hd), words_of_notMem hd]
      by_cases hnil : s = [] <;> simp [hnil, encodeUtf8_eq_nil_iff]

theorem squeeze_encodeUtf8 : squeeze 0x20 (encodeUtf8 s) = encodeUtf8 (squeeze ' ' s) := by
  rw [squeeze, words_encodeUtf8, squeeze]
  induction words ' ' s with
  | nil => rfl
  | cons w ws ih =>
    rcases eq_or_ne ws [] with rfl | hne
    · simp
    rw [map_cons, intercalate_cons_of_ne_nil (by simpa using hne),
      intercalate_cons_of_ne_nil hne, ih]
    simp [encodeUtf8]
    rfl

/-! ## Python's canonical form -/

theorem split_append_cons (hc : U.isSpace c = true) (a b : PyStr) :
    U.split (a ++ c :: b) = U.split a ++ U.split b := by
  rw [PyText.split, splitOnP_append_cons a b hc, filter_append]
  rfl

theorem split_strip : U.split (U.strip s) = U.split s := by
  have hback : ∀ l : PyStr, U.split (l.reverse.dropWhile U.isSpace).reverse = U.split l := by
    intro l
    induction l using reverseRecOn with
    | nil => rfl
    | append_singleton l c ih =>
      rw [reverse_concat, dropWhile_cons]
      split_ifs with hc
      · rw [ih, split_append_cons hc]
        exact (append_nil _).symm
      · simp
  rw [PyText.strip, hback]
  induction s with
  | nil => rfl
  | cons c s ih =>
    rw [dropWhile_cons]
    split_ifs with hc
    · rw [ih]
      exact (split_append_cons hc [] s).symm
    · rfl

/-- The text with a space for every blank. -/
def PyText.spaced (U : PyText) (s : PyStr) : PyStr := s.map fun c => if U.isSpace c then ' ' else c

theorem split_eq_words (hU : U.isSpace ' ' = true) : U.split s = words ' ' (U.spaced s) := by
  have hsplit : s.splitOnP U.isSpace = (U.spaced s).splitOnP (· == ' ') := by
    induction s with
    | nil => rfl
    | cons c s ih =>
      rw [splitOnP_cons_eq_if_modifyHead, PyText.spaced, map_cons,
        splitOnP_cons_eq_if_modifyHead, ih]
      by_cases hc : U.isSpace c = true
      · simp [hc, PyText.spaced]
      · have hne : c ≠ ' ' := fun he => hc (he ▸ hU)
        simp [hc, hne, PyText.spaced]
  rw [PyText.split, hsplit]
  rfl

/-- A text without the characters that are taken out is squeezed, with every blank a space. -/
theorem canonicalCommand_eq (hU : U.isSpace ' ' = true) (hcr : '\r' ∉ s) (hlt : '<' ∉ s) :
    canonicalCommand U s = squeeze ' ' (U.spaced s) := by
  have hfilter : s.filter (· ≠ '\r') = s := by
    refine filter_eq_self.mpr fun c hc => decide_eq_true ?_
    rintro rfl
    exact hcr hc
  have hsuffix : "<cr>".toList.isSuffixOf (U.strip s) = false := by
    rw [Bool.eq_false_iff, ne_eq, isSuffixOf_iff_suffix]
    intro hs
    have hmem : '<' ∈ U.strip s := hs.mem (by decide)
    rw [PyText.strip, mem_reverse] at hmem
    have hfront := mem_reverse.mp ((dropWhile_sublist _).mem hmem)
    exact hlt ((dropWhile_sublist _).mem hfront)
  simp only [canonicalCommand, hfilter, hsuffix, Bool.false_eq_true, if_false]
  rw [split_strip, split_eq_words hU]
  rfl

/-- **The compiler's hash is the daemon's** for a command that the separator check accepts exactly
when there is room for the daemon's canonical form and Python knows no blank in the text but the
space; provided the hash tells the two forms apart. -/
theorem compilerCommandHash_iff (C : Crypto) {U : PyText} (hU : U.isSpace ' ' = true) {s : PyStr}
    (hsep : commandCheckSeparators (encodeUtf8 s) = none)
    (hsha : C.sha256Hex (squeeze 0x20 (encodeUtf8 s)) =
        C.sha256Hex (encodeUtf8 (canonicalCommand U s)) →
      squeeze 0x20 (encodeUtf8 s) = encodeUtf8 (canonicalCommand U s)) :
    commandHashHex C (encodeUtf8 s) none = some (compilerCommandHash C U s) ↔
      canonicalRoom (encodeUtf8 s) < 512 ∧ ∀ c ∈ s, U.isSpace c = true → c = ' ' := by
  have hfree := separatorFree_of_check hsep
  have hcr : '\r' ∉ s := fun h =>
    absurd (hfree.space_le ((mem_encodeUtf8_iff (by decide)).mpr h)) (by decide)
  have hlt : '<' ∉ s := by
    intro h
    obtain ⟨front, rest, he⟩ := append_of_mem ((mem_encodeUtf8_iff (by decide)).mpr h)
    have hat := hfree (0x3C :: rest) ⟨front, he.symm⟩
    simp [separatorAt] at hat
  rw [squeeze_encodeUtf8, canonicalCommand_eq hU hcr hlt] at hsha
  rw [commandHashHex, canonicalizeCommand_eq (by decide) hsep, squeeze_encodeUtf8,
    compilerCommandHash, canonicalCommand_eq hU hcr hlt]
  split_ifs with hroom
  swap
  · simp [hroom]
  simp only [Option.map_some, Option.some.injEq, hroom, true_and]
  constructor
  · intro heq c hc hspace
    by_contra hne
    have hsame := encodeUtf8_injective (hsha heq)
    have hmem := (mem_squeeze_iff hne).mpr hc
    rw [hsame, mem_squeeze_iff hne, PyText.spaced] at hmem
    obtain ⟨b, -, hb⟩ := mem_map.mp hmem
    split_ifs at hb with hblank
    · exact hne hb.symm
    · exact hblank (hb ▸ hspace)
  · intro h
    have hspaced : U.spaced s = s := by
      refine (map_congr_left fun c hc => ?_).trans (map_id s)
      split_ifs with hb
      · exact (h c hc hb).symm
      · rfl
    rw [hspaced]

namespace CommandSample

/-- `str.isspace`. -/
def python : PyText where
  isSpace c := [0x20, 0x85, 0xA0, 0x1680, 0x2028, 0x2029, 0x202F, 0x205F, 0x3000].contains c.toNat ||
    (9 ≤ c.toNat && c.toNat ≤ 13) || (0x1C ≤ c.toNat && c.toNat ≤ 0x1F) ||
    (0x2000 ≤ c.toNat && c.toNat ≤ 0x200A)
  isDecimal := Char.isDigit
  lower := List.map Char.toLower

def spacedOut : PyStr := [' ', 's', 'h', ' ', ' ', 'v', 'e', 'r']

def unbroken : PyStr := ['s', 'h', 'o', 'w', '\u00A0', 'v', 'e', 'r', 's', 'i', 'o', 'n']

def blankCrypto : Crypto := .known
  [(text "sh ver", text "9131221c803479990991547dd99be01ff40b73c3e5722fb78e762fc96881d8e8"),
   (text "show version", text "000ed199c85567b4592fdb330ba588887166a2eb9b93fe500b86698aa7913be6"),
   (encodeUtf8 unbroken, text "4771f9fc669bb5164c046628923268bb32a3ee6414f58cbb963f787128850568")]
  [] [] []

end CommandSample

open CommandSample in
theorem compilerCommandHash_iff_show :
    commandHashHex blankCrypto (encodeUtf8 spacedOut) none =
      some (compilerCommandHash blankCrypto python spacedOut) := by
  refine (compilerCommandHash_iff blankCrypto (by decide) (by decide +kernel) ?_).mpr
    ⟨by decide +kernel, by simp [spacedOut, python]⟩
  intro _
  decide +kernel

open CommandSample in
/-- **A no-break space** is no separator for the daemon and a blank for Python: the daemon's hash of
the command is not the compiler's. -/
theorem compilerCommandHash_unbroken :
    commandCheckSeparators (encodeUtf8 unbroken) = none ∧
    commandHashHex blankCrypto (encodeUtf8 unbroken) none ≠
      some (compilerCommandHash blankCrypto python unbroken) := by
  decide +kernel

end Virp
